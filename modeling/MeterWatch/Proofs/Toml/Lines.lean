import MeterWatch.Proofs.Toml.Spelling

/-!
# Documents line by line

A document is written as headers and entries, one a line, with blanks, comments
and empty lines between them.  Reading it takes in one line after the other.
-/

namespace MeterWatch.Toml

inductive Line where
  | table (path : List Key)
  /-- A header with double brackets. -/
  | tables (path : List Key)
  /-- A path and the text of its value. -/
  | entry (path : List Key) (text : List Char)

def Document.take? (document : Document) : Line → Option Document
  | .table path => document.enter path openTable
  | .tables path => document.enter path pushTable
  | .entry path text => do
      let (value, _) ← value text
      document.add path value

/-! ## Ends of lines -/

/-- Nothing, or a number sign and what follows it on the line. -/
inductive IsComment : List Char → Prop where
  | none : IsComment []
  | some {text : List Char} (h : ∀ c ∈ text, isLineChar c = true) :
      IsComment ('#' :: text)

/-- The end of a line and the lines behind it, if it is not the last one. -/
inductive IsLineEnd : List Char → List Char → Prop where
  | next {blanks comment rest : List Char} (blank : IsBlanks blanks)
      (h : IsComment comment) :
      IsLineEnd (blanks ++ (comment ++ '\n' :: rest)) rest
  | last {blanks comment : List Char} (blank : IsBlanks blanks)
      (h : IsComment comment) : IsLineEnd (blanks ++ comment) []

theorem IsComment.skipBlanks {comment : List Char} (h : IsComment comment)
    {rest : List Char} (starts : ∀ c ∈ rest.head?, isBlank c = false) :
    Toml.skipBlanks (comment ++ rest) = comment ++ rest := by
  cases h with
  | some => rfl
  | none =>
      cases rest with
      | nil => rfl
      | cons c rest =>
          exact List.dropWhile_cons_of_neg (by simp [starts c rfl])

theorem IsComment.skipComment {comment : List Char} (h : IsComment comment)
    {rest : List Char} (stops : ∀ c ∈ rest.head?, c = '\n') :
    Toml.skipComment (comment ++ rest) = rest := by
  have kept : rest.dropWhile isLineChar = rest ∧
      Toml.skipComment rest = rest := by
    cases rest with
    | nil => exact ⟨rfl, rfl⟩
    | cons c rest =>
        obtain rfl := stops c rfl
        exact ⟨rfl, rfl⟩
  cases h with
  | none => exact kept.2
  | some all =>
      rw [List.cons_append, Toml.skipComment,
        List.dropWhile_append_of_pos all, kept.1]

theorem IsLineEnd.lineEnd? {tail rest : List Char} (h : IsLineEnd tail rest) :
    Toml.lineEnd? tail = some rest := by
  cases h with
  | next blank comment =>
      have newline : ∀ c ∈ ('\n' :: rest).head?, c = '\n' := by
        rintro _ ⟨⟩
        rfl
      rw [Toml.lineEnd?, blank.skip, comment.skipBlanks
        (by rintro _ ⟨⟩; rfl), comment.skipComment newline]
      rfl
  | last blank comment =>
      have unblank := @IsComment.skipBlanks _ comment [] (by simp)
      have skipped := @IsComment.skipComment _ comment [] (by simp)
      rw [List.append_nil] at unblank skipped
      rw [Toml.lineEnd?, blank.skip, unblank, skipped]

theorem IsComment.starts {comment rest : List Char} (h : IsComment comment)
    (stops : ∀ c ∈ rest.head?, c = '\n') :
    ∀ c ∈ (comment ++ rest).head?, c = '\n' ∨ c = '#' := by
  cases h with
  | none => exact fun c first => .inl (stops c first)
  | some => rintro _ ⟨⟩; exact .inr rfl

theorem IsLineEnd.endsLine {tail rest : List Char} (h : IsLineEnd tail rest) :
    EndsLine tail := by
  cases h with
  | next blank comment =>
      rw [EndsLine, blank.skip, comment.skipBlanks (by rintro _ ⟨⟩; rfl)]
      exact comment.starts (by rintro _ ⟨⟩; rfl)
  | last blank comment =>
      have unblank := @IsComment.skipBlanks _ comment [] (by simp)
      have starts := @IsComment.starts _ [] comment (by simp)
      rw [List.append_nil] at unblank starts
      rw [EndsLine, blank.skip, unblank]
      exact starts

theorem IsLineEnd.length_le {tail rest : List Char} (h : IsLineEnd tail rest) :
    rest.length ≤ tail.length := by
  cases h with
  | next =>
      simp
      omega
  | last => simp

/-! ## Documents -/

/-- How the lines of a document are written. -/
inductive Written : List Line → List Char → Prop where
  | done : Written [] []
  | skipped {lines : List Line} {text rest : List Char}
      (ends : IsLineEnd text rest) (h : Written lines rest) :
      Written lines text
  | table {lines : List Line} {path : List Key}
      {before inner tail rest : List Char} (blank : IsBlanks before)
      (hpath : IsPath path inner) (short : path.length < 80)
      (ends : IsLineEnd tail rest) (h : Written lines rest) :
      Written (.table path :: lines) (before ++ '[' :: (inner ++ ']' :: tail))
  | tables {lines : List Line} {path : List Key}
      {before inner tail rest : List Char} (blank : IsBlanks before)
      (hpath : IsPath path inner) (short : path.length < 80)
      (ends : IsLineEnd tail rest) (h : Written lines rest) :
      Written (.tables path :: lines)
        (before ++ '[' :: '[' :: (inner ++ ']' :: ']' :: tail))
  | entry {lines : List Line} {path : List Key} {value : Value}
      {inner blanks text tail rest : List Char}
      (hpath : IsPath path inner) (short : path.length < 80)
      (blank : IsBlanks blanks) (read : Toml.value text = some (value, []))
      (ends : IsLineEnd tail rest) (h : Written lines rest) :
      Written (.entry path text :: lines)
        (inner ++ '=' :: (blanks ++ (text ++ tail)))

/-- A line with a bare key, as it is mostly written. -/
theorem Written.bareEntry {key : Key} (bare : IsKey key key)
    {text : List Char} {found : Value} (read : value text = some (found, []))
    {lines : List Line} {rest : List Char} (h : Written lines rest) :
    Written (.entry [key] text :: lines)
      (key ++ [' '] ++ '=' :: ([' '] ++ (text ++ '\n' :: rest))) := by
  have nothing : IsBlanks [] := by simp [IsBlanks]
  have blank : IsBlanks [' '] := by simp [IsBlanks, isBlank]
  have path : IsPath [key] ([] ++ (key ++ [' '])) := .last nothing bare blank
  exact .entry path (by simp) blank read
    (@IsLineEnd.next [] [] rest nothing .none) h

/-- A header with a bare key, as it is mostly written. -/
theorem Written.bareTable {key : Key} (bare : IsKey key key)
    {lines : List Line} {rest : List Char} (h : Written lines rest) :
    Written (.table [key] :: lines)
      ('[' :: (key ++ ']' :: '\n' :: rest)) := by
  have nothing : IsBlanks [] := by simp [IsBlanks]
  have path : IsPath [key] ([] ++ (key ++ [])) := .last nothing bare nothing
  rw [List.append_nil, List.nil_append] at path
  exact @Written.table lines [key] [] key _ rest nothing path (by simp)
    (@IsLineEnd.next [] [] rest nothing .none) h

/-- What is left of a path without the blanks in front of it. -/
theorem IsPath.skipBlanks {path : List Key} {text : List Char}
    (h : IsPath path text) (rest : List Char) :
    ∃ c others, Toml.skipBlanks (text ++ rest) = c :: others ++ rest ∧
      IsPath path (c :: others) ∧
      (isBareKeyChar c = true ∨ c = '"' ∨ c = '\'') := by
  have nothing : IsBlanks [] := by simp [IsBlanks]
  cases h with
  | last blank spelled blank' =>
      obtain ⟨c, others, rfl, first⟩ := spelled.head
      refine ⟨c, others ++ _, ?_, .last nothing spelled blank', first⟩
      rw [List.append_assoc, blank.skip, List.append_assoc,
        skipBlanks_key spelled, ← List.append_assoc]
      rfl
  | more blank spelled blank' path =>
      obtain ⟨c, others, rfl, first⟩ := spelled.head
      refine ⟨c, others ++ _, ?_, .more nothing spelled blank' path, first⟩
      rw [List.append_assoc, blank.skip, List.append_assoc,
        skipBlanks_key spelled, ← List.append_assoc]
      rfl

theorem header_path {path : List Key} {inner : List Char}
    (hpath : IsPath path inner) (short : path.length < 80)
    (closing tail : List Char) :
    header (']' :: closing) (inner ++ ']' :: (closing ++ tail)) =
      some (path, tail) := by
  have closed : ∀ letters : List Char,
      letters.isPrefixOf? (letters ++ tail) = some tail := by
    intro letters
    induction letters with
    | nil => rfl
    | cons letter letters ih =>
        rw [List.cons_append, isPrefixOf?_cons,
          if_pos (beq_self_eq_true letter), ih]
  rw [header, keyPath, hpath.keysWithin (by omega) (.inr rfl)]
  dsimp only [Option.bind_eq_bind, Option.bind_some]
  rw [← List.cons_append, closed (']' :: closing)]
  rfl

theorem keyValue_path {path : List Key} {inner blanks text tail : List Char}
    (hpath : IsPath path inner) (short : path.length < 80)
    (blank : IsBlanks blanks) {found : Value}
    (read : value text = some (found, [])) (ends : EndsLine tail) :
    keyValue value (inner ++ '=' :: (blanks ++ (text ++ tail))) =
      some ((path, found), tail) := by
  have visible : skipBlanks (text ++ tail) = text ++ tail := by
    cases text with
    | nil => cases read
    | cons c others =>
        refine List.dropWhile_cons_of_neg fun blank => ?_
        rw [value_blank blank] at read
        cases read
  rw [keyValue, keyPath, hpath.keysWithin (by omega) (.inl rfl)]
  dsimp only [Option.bind_eq_bind, Option.bind_some]
  rw [expect, if_pos rfl]
  dsimp only [Option.bind_some]
  rw [blank.skip, visible, value_kept read ends]
  rfl

namespace Document

theorem readLines_line {fuel : Nat} (positive : 0 < fuel)
    {document : Document} {text tail rest : List Char} {c : Char}
    {others : List Char} (starts : skipBlanks text = c :: others)
    (opens : c ≠ '\n' ∧ c ≠ '#') {taken : Option Document}
    (read : document.readLine (c :: others) =
      taken.map fun next => (next, tail))
    (ends : IsLineEnd tail rest) :
    readLines fuel document text =
      taken >>= fun next => readLines (fuel - 1) next rest := by
  obtain ⟨less, rfl⟩ := Nat.exists_eq_add_one_of_ne_zero positive.ne'
  rw [readLines, starts]
  dsimp only
  rw [if_neg (not_or.mpr opens), read]
  cases taken with
  | none => rfl
  | some next =>
      change (lineEnd? tail).bind _ = _
      rw [ends.lineEnd?]
      rfl

theorem readLine_table (document : Document) {path : List Key}
    {inner tail : List Char} (hpath : IsPath path inner)
    (short : path.length < 80) :
    document.readLine ('[' :: (inner ++ ']' :: tail)) =
      (document.take? (.table path)).map fun next => (next, tail) := by
  have read := header_path hpath short [] tail
  rw [List.nil_append] at read
  have single : ∀ rest, inner ++ ']' :: tail ≠ '[' :: rest := by
    intro rest starts
    obtain ⟨c, others, skipped, -, first⟩ := hpath.skipBlanks (']' :: tail)
    rw [starts] at skipped
    obtain ⟨rfl, -⟩ := List.cons.inj skipped
    rcases first with bare | quote | quote <;> first | cases bare | cases quote
  unfold readLine
  split
  · next rest doubled =>
      exact absurd (List.cons.inj doubled).2 (single rest)
  · next rest _ bracket =>
      obtain rfl := (List.cons.inj bracket).2
      rw [read]
      cases taken : document.take? (.table path) <;>
      · change document.enter path openTable = _ at taken
        change ((document.enter path openTable).bind fun next =>
          some (next, tail)) = _
        rw [taken]
        rfl
  · next other => exact (other _ rfl).elim

theorem readLine_tables (document : Document) {path : List Key}
    {inner tail : List Char} (hpath : IsPath path inner)
    (short : path.length < 80) :
    document.readLine ('[' :: '[' :: (inner ++ ']' :: ']' :: tail)) =
      (document.take? (.tables path)).map fun next => (next, tail) := by
  have read := header_path hpath short [']'] tail
  change ((header [']', ']'] (inner ++ ']' :: ']' :: tail)).bind fun found =>
    (document.enter found.1 pushTable).bind fun next =>
      some (next, found.2)) = _
  rw [show header [']', ']'] (inner ++ ']' :: ']' :: tail) = _ from read]
  change (document.enter path pushTable).bind _ =
    (document.enter path pushTable).map _
  cases document.enter path pushTable <;> rfl

theorem readLine_entry (document : Document) {path : List Key} {c : Char}
    {others blanks text tail : List Char}
    (hpath : IsPath path (c :: others)) (short : path.length < 80)
    (first : isBareKeyChar c = true ∨ c = '"' ∨ c = '\'')
    (blank : IsBlanks blanks) {found : Value}
    (read : value text = some (found, [])) (ends : EndsLine tail) :
    document.readLine (c :: others ++ '=' :: (blanks ++ (text ++ tail))) =
      (document.take? (.entry path text)).map fun next => (next, tail) := by
  have pair := keyValue_path hpath short blank read ends
  have not_bracket : c ≠ '[' := by
    rintro rfl
    rcases first with bare | quote | quote <;> first | cases bare | cases quote
  have line : document.readLine
      (c :: others ++ '=' :: (blanks ++ (text ++ tail))) =
        (do
          let pair ← keyValue value
            (c :: others ++ '=' :: (blanks ++ (text ++ tail)))
          return (← document.add pair.1.1 pair.1.2, pair.2)) := by
    simp [readLine, not_bracket]
  rw [line, pair, take?, read]
  change (document.add path found).bind _ = (document.add path found).map _
  cases document.add path found <;> rfl

/-- A line without anything on it, after the blanks in front of its end. -/
theorem readLines_empty {fuel : Nat} (positive : 0 < fuel)
    (document : Document) {c : Char} {text others rest : List Char}
    (starts : skipBlanks text = c :: others) (empty : c = '\n' ∨ c = '#')
    (ends : IsLineEnd (c :: others) rest) :
    readLines fuel document text = readLines (fuel - 1) document rest := by
  obtain ⟨less, rfl⟩ := Nat.exists_eq_add_one_of_ne_zero positive.ne'
  rw [readLines, starts]
  dsimp only
  rw [if_pos empty, ends.lineEnd?]
  rfl

theorem readLines_skipped {fuel : Nat} {document : Document}
    {text rest : List Char} (ends : IsLineEnd text rest)
    (enough : text.length < fuel) :
    readLines fuel document text = readLines fuel document rest ∨
      rest.length < fuel - 1 ∧
        readLines fuel document text = readLines (fuel - 1) document rest := by
  have nothing : IsBlanks [] := by simp [IsBlanks]
  have positive : 0 < fuel := by omega
  cases ends with
  | @next blanks comment rest blank hcomment =>
      simp only [List.length_append, List.length_cons] at enough
      have starts : skipBlanks (blanks ++ (comment ++ '\n' :: rest)) =
          comment ++ '\n' :: rest := by
        rw [blank.skip, hcomment.skipBlanks (by rintro _ ⟨⟩; rfl)]
      have first := @IsComment.starts _ ('\n' :: rest) hcomment
        (by rintro _ ⟨⟩; rfl)
      have line_end := @IsLineEnd.next [] comment rest nothing hcomment
      rw [List.nil_append] at line_end
      obtain ⟨c, others, line_eq⟩ : ∃ c others,
          comment ++ '\n' :: rest = c :: others :=
        List.exists_cons_of_ne_nil (by simp)
      rw [line_eq] at starts first line_end
      refine .inr ⟨by omega, ?_⟩
      rw [line_eq]
      exact readLines_empty positive document (line_eq ▸ starts) (first c rfl)
        line_end
  | @last blanks comment blank hcomment =>
      cases hcomment with
      | none =>
          obtain ⟨less, rfl⟩ := Nat.exists_eq_add_one_of_ne_zero positive.ne'
          have starts : skipBlanks (blanks ++ []) = [] := blank.skip []
          -- Nothing is left on the last line, so no line is taken.
          left
          rw [readLines, starts]
          rfl
      | @some inner all =>
          simp only [List.length_append, List.length_cons] at enough
          have starts : skipBlanks (blanks ++ '#' :: inner) =
              '#' :: inner := by
            rw [blank.skip]
            rfl
          refine .inr ⟨by rw [List.length_nil]; omega, ?_⟩
          exact readLines_empty positive document starts (.inr rfl)
            (.last nothing (.some all))

/-- A document is read line by line. -/
theorem readLines_written {lines : List Line} {text : List Char}
    (h : Written lines text) {fuel : Nat} (enough : text.length < fuel)
    (document : Document) :
    readLines fuel document text = lines.foldlM take? document := by
  induction h generalizing fuel document with
  | done =>
      obtain ⟨less, rfl⟩ :=
        Nat.exists_eq_add_one_of_ne_zero (Nat.ne_of_gt enough)
      rfl
  | @skipped lines text rest ends _ ih =>
      have shorter := ends.length_le
      rcases readLines_skipped ends enough with same | ⟨still_enough, skips⟩
      · rw [same]
        exact ih (by omega) document
      · rw [skips]
        exact ih still_enough document
  | @table lines path before inner tail rest blank hpath short ends _ ih =>
      have shorter := ends.length_le
      simp only [List.length_append, List.length_cons] at enough
      have starts : skipBlanks (before ++ '[' :: (inner ++ ']' :: tail)) =
          '[' :: (inner ++ ']' :: tail) := by
        rw [blank.skip]
        rfl
      rw [readLines_line (by omega) starts (by decide)
        (readLine_table document hpath short) ends, List.foldlM_cons]
      exact bind_congr fun next => ih (by omega) next
  | @tables lines path before inner tail rest blank hpath short ends _ ih =>
      have shorter := ends.length_le
      simp only [List.length_append, List.length_cons] at enough
      have starts : skipBlanks
          (before ++ '[' :: '[' :: (inner ++ ']' :: ']' :: tail)) =
            '[' :: '[' :: (inner ++ ']' :: ']' :: tail) := by
        rw [blank.skip]
        rfl
      rw [readLines_line (by omega) starts (by decide)
        (readLine_tables document hpath short) ends, List.foldlM_cons]
      exact bind_congr fun next => ih (by omega) next
  | @entry lines path found inner blanks text tail rest hpath short blank read
      ends _ ih =>
      have shorter := ends.length_le
      simp only [List.length_append, List.length_cons] at enough
      obtain ⟨c, others, starts, hpath, first⟩ :=
        hpath.skipBlanks ('=' :: (blanks ++ (text ++ tail)))
      have opens : c ≠ '\n' ∧ c ≠ '#' := by
        constructor <;> rintro rfl <;>
          rcases first with bare | quote | quote <;>
            first | cases bare | cases quote
      rw [readLines_line (by omega) starts opens (readLine_entry document hpath
        short first blank read ends.endsLine) ends, List.foldlM_cons]
      exact bind_congr fun next => ih (by omega) next

end Document

/-- The lines of a text decide what its document holds. -/
theorem parse?_written {lines : List Line} {text : String}
    (h : Written lines (unifyNewlines (dropMark text.toList))) :
    parse? text =
      (lines.foldlM Document.take? ⟨[], []⟩).map Document.root := by
  rw [parse?, Document.readLines_written h (Nat.lt_succ_self _)]
  cases lines.foldlM Document.take? ⟨[], []⟩ <;> rfl

end MeterWatch.Toml
