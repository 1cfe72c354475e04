import MeterWatch.Proofs.Toml.Numeric

/-!
# Values at the end of a line

A value that is read stays the same value when its line is ended.  Here more
text also means more fuel, of which there is enough without it.
-/

namespace MeterWatch.Toml

/-- A reader that reads the same once the line is ended. -/
def IsKept {α : Type} (read : Reader α) : Prop :=
  ∀ ⦃text found rest⦄, read text = some (found, rest) →
    ∀ ⦃tail⦄, EndsLine tail → read (text ++ tail) = some (found, rest ++ tail)

theorem IsLocal.isKept {α : Type} {read : Reader α} (h : IsLocal read) :
    IsKept read := by
  intro text found rest read_eq tail ends
  rw [h text tail ends, read_eq]
  rfl

/-! ## Runs of characters -/

section Runs

variable {p : Char → Bool} {text : List Char}

theorem dropWhile_append_of_ne_nil (stops : text.dropWhile p ≠ [])
    (tail : List Char) :
    (text ++ tail).dropWhile p = text.dropWhile p ++ tail := by
  rw [List.dropWhile_append, if_neg (by simpa using stops)]

theorem takeWhile_append_of_ne_nil (stops : text.dropWhile p ≠ [])
    (tail : List Char) : (text ++ tail).takeWhile p = text.takeWhile p := by
  have whole := (text ++ tail).takeWhile_append_dropWhile (p := p)
  have parts := text.takeWhile_append_dropWhile (p := p)
  rw [dropWhile_append_of_ne_nil stops, ← List.append_assoc] at whole
  exact List.append_cancel_right ((List.append_cancel_right whole).trans
    parts.symm)

end Runs

/-! ## Escapes -/

theorem numberedEscape_kept (size : Nat) {text rest : List Char} {c : Char}
    (read : numberedEscape size text = some (c, rest)) (tail : List Char) :
    numberedEscape size (text ++ tail) = some (c, rest ++ tail) := by
  simp only [numberedEscape] at read ⊢
  split at read
  · cases read
  · next complete =>
      have long : size ≤ text.length := by
        by_contra short
        refine complete ?_
        rw [List.length_take, Bool.or_eq_true, decide_eq_true_eq]
        exact .inl (by omega)
      rw [List.take_append_of_le_length long,
        List.drop_append_of_le_length long, if_neg complete]
      cases char : charOfNat? (hexValue (text.take size)) with
      | none =>
          rw [char] at read
          cases read
      | some found =>
          rw [char] at read
          cases read
          rfl

theorem escape_kept {text rest : List Char} {c : Char}
    (read : escape text = some (c, rest)) (tail : List Char) :
    escape (text ++ tail) = some (c, rest ++ tail) := by
  unfold escape at read
  split at read
  · exact numberedEscape_kept 4 read tail
  · exact numberedEscape_kept 8 read tail
  · next letter others not_short not_long =>
      cases simple : simpleEscape? letter with
      | none =>
          rw [simple] at read
          cases read
      | some found =>
          rw [simple] at read
          cases read
          simp [escape, simple]
  · cases read

/-! ## Strings of one line -/

theorem basicWithin_kept {fuel : Nat} {reversed text found rest : List Char}
    (read : basicWithin fuel reversed text = some (found, rest))
    {more : Nat} (enough : fuel ≤ more) (tail : List Char) :
    basicWithin more reversed (text ++ tail) = some (found, rest ++ tail) := by
  induction fuel generalizing reversed text more with
  | zero => cases read
  | succ fuel ih =>
      obtain ⟨more, rfl⟩ : ∃ less, more = less + 1 :=
        ⟨more - 1, by omega⟩
      cases text with
      | nil => cases read
      | cons c others =>
          rw [basicWithin] at read
          rw [List.cons_append, basicWithin]
          split at read
          · next quote =>
              cases read
              rw [if_pos quote]
          · next not_quote =>
              rw [if_neg not_quote]
              split at read
              · next backslash =>
                  rw [if_pos backslash]
                  cases escaped : escape others with
                  | none =>
                      rw [escaped] at read
                      cases read
                  | some result =>
                      rw [escaped] at read
                      rw [escape_kept escaped tail]
                      exact ih read (by omega)
              · next not_escape =>
                  rw [if_neg not_escape]
                  split at read
                  · next content =>
                      rw [if_pos content]
                      exact ih read (by omega)
                  · cases read

theorem basicString_kept {text found rest : List Char}
    (read : basicString text = some (found, rest)) (tail : List Char) :
    basicString (text ++ tail) = some (found, rest ++ tail) :=
  basicWithin_kept read (by simp) tail

theorem literalString_kept {text found rest : List Char}
    (read : literalString text = some (found, rest)) (tail : List Char) :
    literalString (text ++ tail) = some (found, rest ++ tail) := by
  unfold literalString at read
  split at read
  · next behind =>
      have stops : text.dropWhile isLiteralChar ≠ [] := by simp [behind]
      cases read
      simp [literalString, dropWhile_append_of_ne_nil stops,
        takeWhile_append_of_ne_nil stops, behind]
  · cases read

/-! ## Strings of many lines -/

theorem staysInLine_quote {quote : Char} (mark : quote ∈ ['"', '\'']) :
    StaysInLine (· == quote) := by
  simp only [List.mem_cons, List.not_mem_nil, or_false] at mark
  rcases mark with rfl | rfl <;> exact staysInLine_of_all (by decide)

theorem quoteRun_append {quote : Char} (mark : quote ∈ ['"', '\''])
    {tail : List Char} (ends : EndsLine tail) (text : List Char) :
    quoteRun quote (text ++ tail) =
      ((quoteRun quote text).1, (quoteRun quote text).2.1,
        (quoteRun quote text).2.2 ++ tail) := by
  have within := (text.takeWhile_sublist (· == quote)).length_le
  simp only [quoteRun, takeWhile_append ends (staysInLine_quote mark)]
  split
  · rw [List.drop_append_of_le_length within]
  · rw [List.drop_append_of_le_length (by omega)]

theorem lineGap?_kept {text rest : List Char}
    (gap : lineGap? text = some rest) (more : rest ≠ []) (tail : List Char) :
    lineGap? (text ++ tail) = some (rest ++ tail) := by
  unfold lineGap? at gap
  split at gap
  · next others newline =>
      obtain rfl := Option.some.inj gap
      have stops : text.dropWhile isBlank ≠ [] := by
        rw [← skipBlanks, newline]
        simp
      rw [lineGap?, skipBlanks, dropWhile_append_of_ne_nil stops,
        ← skipBlanks, newline, List.cons_append]
      exact congrArg some (dropWhile_append_of_ne_nil more tail)
  · cases gap

theorem lineGap?_of_escape {text : List Char} {found : Char × List Char}
    (read : escape text = some found) : lineGap? text = none := by
  cases text with
  | nil => cases read
  | cons c rest =>
      have visible : isBlank c = false := by
        by_contra blank
        rw [Bool.not_eq_false, isBlank, Bool.or_eq_true, beq_iff_eq,
          beq_iff_eq] at blank
        rcases blank with rfl | rfl <;> cases read
      have in_line : c ≠ '\n' := by
        rintro rfl
        cases read
      rw [lineGap?, skipBlanks, List.dropWhile_cons_of_neg (by simp [visible])]
      simp [in_line]

theorem linesWithin_kept {quote : Char} (mark : quote ∈ ['"', '\''])
    (escapes : Bool) {fuel : Nat} {reversed text found rest : List Char}
    (read : linesWithin quote escapes fuel reversed text = some (found, rest))
    {more : Nat} (enough : fuel ≤ more) {tail : List Char}
    (ends : EndsLine tail) :
    linesWithin quote escapes more reversed (text ++ tail) =
      some (found, rest ++ tail) := by
  induction fuel generalizing reversed text more with
  | zero => cases read
  | succ fuel ih =>
      obtain ⟨more, rfl⟩ : ∃ less, more = less + 1 :=
        ⟨more - 1, by omega⟩
      cases text with
      | nil => cases read
      | cons c others =>
          rw [linesWithin] at read
          rw [List.cons_append, linesWithin]
          split at read
          · next is_quote =>
              rw [if_pos is_quote, ← List.cons_append,
                quoteRun_append mark ends]
              dsimp only at read ⊢
              split at read
              · next closed =>
                  cases read
                  rw [if_pos closed]
              · next still_open =>
                  rw [if_neg still_open]
                  exact ih read (by omega)
          · next not_quote =>
              rw [if_neg not_quote]
              split at read
              · next escaping =>
                  rw [if_pos escaping]
                  cases gap : lineGap? others with
                  | some behind =>
                      rw [gap] at read
                      dsimp only at read
                      have more_text : behind ≠ [] := by
                        rintro rfl
                        cases fuel <;> cases read
                      rw [lineGap?_kept gap more_text tail]
                      exact ih read (by omega)
                  | none =>
                      rw [gap] at read
                      cases escaped : escape others with
                      | none =>
                          rw [escaped] at read
                          cases read
                      | some result =>
                          rw [escaped] at read
                          have kept := escape_kept escaped tail
                          rw [lineGap?_of_escape kept, kept]
                          exact ih read (by omega)
              · next not_escape =>
                  rw [if_neg not_escape]
                  split at read
                  · next content =>
                      rw [if_pos content]
                      exact ih read (by omega)
                  · cases read

theorem linesString_kept {quote : Char} (mark : quote ∈ ['"', '\''])
    (escapes : Bool) {text found rest : List Char}
    (read : linesString quote escapes text = some (found, rest))
    {tail : List Char} (ends : EndsLine tail) :
    linesString quote escapes (text ++ tail) = some (found, rest ++ tail) := by
  have dropped : dropNewline (text ++ tail) = dropNewline text ++ tail := by
    cases text with
    | nil => cases read
    | cons c others =>
        by_cases newline : c = '\n'
        · subst newline
          rfl
        · simp [dropNewline, newline]
  rw [linesString, dropped]
  exact linesWithin_kept mark escapes read (by simp) ends

/-- Two more quotes would open a string of many lines. -/
def IsDoubled (quote : Char) (text : List Char) : Prop :=
  ∃ rest, text = quote :: quote :: rest

theorem string_basic {text : List Char} (single : ¬ IsDoubled '"' text) :
    string ('"' :: text) = basicString text := by
  unfold string
  split
  · next rest doubled =>
      exact absurd ⟨rest, (List.cons.inj doubled).2⟩ single
  · next quote =>
      cases (List.cons.inj quote).1
  · next quote => rw [(List.cons.inj quote).2]
  · next quote =>
      cases (List.cons.inj quote).1
  · next unquoted _ => exact absurd rfl (unquoted text)

theorem string_literal {text : List Char} (single : ¬ IsDoubled '\'' text) :
    string ('\'' :: text) = literalString text := by
  unfold string
  split
  · next quote =>
      cases (List.cons.inj quote).1
  · next rest doubled =>
      exact absurd ⟨rest, (List.cons.inj doubled).2⟩ single
  · next quote =>
      cases (List.cons.inj quote).1
  · next quote => rw [(List.cons.inj quote).2]
  · next unquoted => exact absurd rfl (unquoted text)

theorem IsDoubled.of_append {quote : Char} (mark : quote ∈ ['"', '\''])
    {text tail : List Char} (nonempty : text ≠ []) (ends : EndsLine tail)
    (doubled : IsDoubled quote (text ++ tail)) : IsDoubled quote text := by
  obtain ⟨rest, starts⟩ := doubled
  match text with
  | [] => exact absurd rfl nonempty
  | [c] =>
      have behind : tail = quote :: rest := (List.cons.inj starts).2
      have other := ends.not_head (staysInLine_quote mark) quote
        (by rw [behind]; rfl)
      simp at other
  | c :: d :: others =>
      obtain ⟨rfl, behind⟩ := List.cons.inj starts
      obtain ⟨rfl, -⟩ := List.cons.inj behind
      exact ⟨others, rfl⟩

theorem string_kept : IsKept string := by
  intro text found rest read tail ends
  unfold string at read
  split at read
  · exact linesString_kept (by simp) true read ends
  · exact linesString_kept (by simp) false read ends
  · next others single =>
      have nonempty : others ≠ [] := by
        rintro rfl
        cases read
      have still : ¬ IsDoubled '"' (others ++ tail) := fun doubled => by
        obtain ⟨behind, rfl⟩ := doubled.of_append (by simp) nonempty ends
        exact single behind rfl
      rw [List.cons_append, string_basic still]
      exact basicString_kept read tail
  · next others single =>
      have nonempty : others ≠ [] := by
        rintro rfl
        cases read
      have still : ¬ IsDoubled '\'' (others ++ tail) := fun doubled => by
        obtain ⟨behind, rfl⟩ := doubled.of_append (by simp) nonempty ends
        exact single behind rfl
      rw [List.cons_append, string_literal still]
      exact literalString_kept read tail
  · cases read

/-! ## Keys -/

theorem staysInLine_isBareKeyChar : StaysInLine isBareKeyChar :=
  staysInLine_of_all (by decide)

theorem simpleKey_bare {c : Char} (bare : isBareKeyChar c = true)
    (text : List Char) :
    simpleKey (c :: text) =
      some ((c :: text).takeWhile isBareKeyChar,
        (c :: text).dropWhile isBareKeyChar) := by
  unfold simpleKey
  split
  · next quoted =>
      rw [(List.cons.inj quoted).1] at bare
      cases bare
  · next quoted =>
      rw [(List.cons.inj quoted).1] at bare
      cases bare
  · dsimp only
    rw [List.takeWhile_cons_of_pos bare]
    rfl

theorem simpleKey_kept : IsKept simpleKey := by
  intro text found rest read tail ends
  unfold simpleKey at read
  split at read
  · exact basicString_kept read tail
  · exact literalString_kept read tail
  · dsimp only at read
    split at read
    · cases read
    · next nonempty =>
        cases read
        cases text with
        | nil => exact absurd rfl nonempty
        | cons c others =>
            have bare : isBareKeyChar c = true := by
              by_contra other
              exact nonempty (by rw [List.takeWhile_cons_of_neg other]; rfl)
            have stays := staysInLine_isBareKeyChar
            rw [List.cons_append, simpleKey_bare bare, ← List.cons_append,
              takeWhile_append ends stays, dropWhile_append ends stays]

theorem skipBlanks_append {text : List Char} (more : skipBlanks text ≠ [])
    (tail : List Char) :
    skipBlanks (text ++ tail) = skipBlanks text ++ tail :=
  dropWhile_append_of_ne_nil more tail

theorem simpleKey_skipBlanks_kept {text rest : List Char} {key : List Char}
    (read : simpleKey (skipBlanks text) = some (key, rest))
    {tail : List Char} (ends : EndsLine tail) :
    simpleKey (skipBlanks (text ++ tail)) = some (key, rest ++ tail) := by
  have started : skipBlanks text ≠ [] := by
    intro empty
    rw [empty] at read
    cases read
  rw [skipBlanks_append started]
  exact simpleKey_kept read ends

theorem keysWithin_kept {fuel : Nat} {text rest : List Char}
    {path : List (List Char)} (read : keysWithin fuel text = some (path, rest))
    (more : rest ≠ []) {tail : List Char} (ends : EndsLine tail) :
    keysWithin fuel (text ++ tail) = some (path, rest ++ tail) := by
  induction fuel generalizing text path with
  | zero => cases read
  | succ fuel ih =>
      obtain ⟨⟨key, behind⟩, first, next⟩ := Option.bind_eq_some_iff.mp read
      have going : skipBlanks behind ≠ [] := by
        intro empty
        dsimp only at next
        rw [empty] at next
        obtain ⟨-, rfl⟩ := Prod.mk.inj (Option.some.inj next)
        exact more rfl
      rw [keysWithin, simpleKey_skipBlanks_kept first ends]
      dsimp only [Option.bind_eq_bind, Option.bind_some] at next ⊢
      rw [skipBlanks_append going]
      split at next
      · next others point =>
          obtain ⟨⟨keys, left⟩, others_read, last⟩ :=
            Option.bind_eq_some_iff.mp next
          obtain ⟨rfl, rfl⟩ := Prod.mk.inj (Option.some.inj last)
          rw [point, List.cons_append]
          change ((keysWithin fuel (others ++ tail)).bind fun found =>
            some (key :: found.1, found.2)) = _
          rw [ih others_read]
          rfl
      · next last =>
          obtain ⟨rfl, rfl⟩ := Prod.mk.inj (Option.some.inj next)
          split
          · next others point =>
              obtain ⟨c, left, left_eq⟩ := List.exists_cons_of_ne_nil going
              rw [left_eq] at point
              obtain ⟨rfl, -⟩ := List.cons.inj point
              exact (last left left_eq).elim
          · rfl

theorem expect_kept {c : Char} {text rest : List Char}
    (read : expect c text = some rest) (tail : List Char) :
    expect c (text ++ tail) = some (rest ++ tail) := by
  cases text with
  | nil => cases read
  | cons first others =>
      rw [expect] at read
      split at read
      · next same =>
          cases read
          rw [List.cons_append, expect, if_pos same]
      · cases read

/-! ## Gaps in arrays -/

/-- Something that is read where a gap has ended. -/
def BeginsItem (c : Char) : Prop := isGapChar c = false ∧ c ≠ '#'

theorem skipGaps_beginsItem {fuel : Nat} {text rest : List Char} {c : Char}
    (enough : text.length ≤ fuel) (skipped : skipGaps fuel text = c :: rest) :
    BeginsItem c := by
  induction fuel generalizing text with
  | zero =>
      obtain rfl : text = [] := List.eq_nil_of_length_eq_zero (by omega)
      cases skipped
  | succ fuel ih =>
      rw [skipGaps] at skipped
      have shorter := (text.dropWhile_suffix isGapChar).length_le
      split at skipped
      · next others comment =>
          refine ih ?_ skipped
          rw [comment] at shorter
          have within := (others.dropWhile_suffix isLineChar).length_le
          rw [List.length_cons] at shorter
          rw [skipComment]
          omega
      · next not_comment =>
          constructor
          · have first := List.head?_dropWhile_not isGapChar text
            rw [skipped] at first
            exact first
          · rintro rfl
            exact not_comment rest skipped

theorem skipGaps_kept {fuel : Nat} {text rest : List Char} {c : Char}
    (begins : BeginsItem c) (skipped : skipGaps fuel text = c :: rest)
    {more : Nat} (enough : fuel ≤ more) (tail : List Char) :
    skipGaps more (text ++ tail) = c :: rest ++ tail := by
  have stopped {others : List Char} (starts : others = c :: rest)
      (more : Nat) : skipGaps more (others ++ tail) = c :: rest ++ tail := by
    subst starts
    cases more with
    | zero => rfl
    | succ more =>
        rw [skipGaps, List.cons_append,
          List.dropWhile_cons_of_neg (by simp [begins.1])]
        split
        · next comment => exact absurd (List.cons.inj comment).1 begins.2
        · rfl
  induction fuel generalizing text more with
  | zero => exact stopped skipped more
  | succ fuel ih =>
      obtain ⟨more, rfl⟩ : ∃ less, more = less + 1 :=
        ⟨more - 1, by omega⟩
      rw [skipGaps] at skipped
      split at skipped
      · next others comment =>
          have stops : text.dropWhile isGapChar ≠ [] := by simp [comment]
          have line_stops : others.dropWhile isLineChar ≠ [] := by
            intro empty
            rw [skipComment, empty] at skipped
            cases fuel <;> cases skipped
          rw [skipGaps, dropWhile_append_of_ne_nil stops, comment]
          change skipGaps more ((others ++ tail).dropWhile isLineChar) = _
          rw [dropWhile_append_of_ne_nil line_stops]
          exact ih skipped (by omega)
      · have stops : text.dropWhile isGapChar ≠ [] := by simp [skipped]
        rw [skipGaps, dropWhile_append_of_ne_nil stops, skipped]
        rw [List.cons_append]
        split
        · next comment => exact absurd (List.cons.inj comment).1 begins.2
        · rfl

theorem skipGap_kept {text rest : List Char} {c : Char}
    (skipped : skipGap text = c :: rest) (tail : List Char) :
    skipGap (text ++ tail) = c :: rest ++ tail :=
  skipGaps_kept (skipGaps_beginsItem le_rfl skipped) skipped (by simp) tail

/-! ## Arrays and tables -/

section Containers

variable {value : Reader Value} (kept : IsKept value)
  (nothing : value [] = none)

include kept nothing

theorem itemsWithin_kept {fuel : Nat} {text rest : List Char}
    {items : List Value}
    (read : itemsWithin value fuel text = some (items, rest))
    {more : Nat} (enough : fuel ≤ more) {tail : List Char}
    (ends : EndsLine tail) :
    itemsWithin value more (text ++ tail) = some (items, rest ++ tail) := by
  induction fuel generalizing text items more with
  | zero => cases read
  | succ fuel ih =>
      obtain ⟨more, rfl⟩ : ∃ less, more = less + 1 :=
        ⟨more - 1, by omega⟩
      rw [itemsWithin] at read ⊢
      split at read
      · next others closing =>
          cases read
          rw [skipGap_kept closing]
          rfl
      · next not_closing =>
          obtain ⟨⟨item, behind⟩, first, next⟩ :=
            Option.bind_eq_some_iff.mp read
          cases started : skipGap text with
          | nil =>
              rw [started, nothing] at first
              cases first
          | cons c others =>
              have open_still : c ≠ ']' := by
                rintro rfl
                exact not_closing others started
              rw [started] at first
              rw [skipGap_kept started]
              split
              · next closing =>
                  exact absurd (List.cons.inj closing).1 open_still
              · rw [kept first ends]
                dsimp only [Option.bind_eq_bind, Option.bind_some] at next ⊢
                split at next
                · next others comma =>
                    obtain ⟨⟨items, left⟩, others_read, last⟩ :=
                      Option.bind_eq_some_iff.mp next
                    obtain ⟨rfl, rfl⟩ := Prod.mk.inj (Option.some.inj last)
                    rw [skipGap_kept comma, List.cons_append]
                    change ((itemsWithin value more (others ++ tail)).bind
                      fun found => some (item :: found.1, found.2)) = _
                    rw [ih others_read (by omega)]
                    rfl
                · next others closing =>
                    obtain ⟨rfl, rfl⟩ := Prod.mk.inj (Option.some.inj next)
                    rw [skipGap_kept closing]
                    rfl
                · cases next

theorem keyValue_kept : IsKept (keyValue value) := by
  intro text found rest read tail ends
  obtain ⟨⟨path, behind⟩, keys, assigned⟩ := Option.bind_eq_some_iff.mp read
  obtain ⟨right, sign, last⟩ := Option.bind_eq_some_iff.mp assigned
  obtain ⟨⟨content, left⟩, value_read, last⟩ :=
    Option.bind_eq_some_iff.mp last
  obtain ⟨rfl, rfl⟩ := Prod.mk.inj (Option.some.inj last)
  have more : behind ≠ [] := by
    rintro rfl
    cases sign
  have started : skipBlanks right ≠ [] := by
    intro empty
    rw [empty, nothing] at value_read
    cases value_read
  rw [keyValue, keyPath, keysWithin_kept keys more ends]
  dsimp only [Option.bind_eq_bind, Option.bind_some]
  rw [expect_kept sign]
  dsimp only [Option.bind_some]
  rw [skipBlanks_append started, kept value_read ends]
  rfl

theorem pairsWithin_kept {fuel : Nat} {text rest : List Char}
    {pairs : List (List Key × Value)}
    (read : pairsWithin value fuel text = some (pairs, rest))
    {more : Nat} (enough : fuel ≤ more) {tail : List Char}
    (ends : EndsLine tail) :
    pairsWithin value more (text ++ tail) = some (pairs, rest ++ tail) := by
  induction fuel generalizing text pairs more with
  | zero => cases read
  | succ fuel ih =>
      obtain ⟨more, rfl⟩ : ∃ less, more = less + 1 :=
        ⟨more - 1, by omega⟩
      obtain ⟨⟨pair, behind⟩, first, next⟩ := Option.bind_eq_some_iff.mp read
      rw [pairsWithin, keyValue_kept kept nothing first ends]
      dsimp only [Option.bind_eq_bind, Option.bind_some] at next ⊢
      split at next
      · next others comma =>
          obtain ⟨⟨pairs, left⟩, others_read, last⟩ :=
            Option.bind_eq_some_iff.mp next
          obtain ⟨rfl, rfl⟩ := Prod.mk.inj (Option.some.inj last)
          rw [skipBlanks_append (by simp [comma]), comma, List.cons_append]
          change ((pairsWithin value more (others ++ tail)).bind
            fun found => some (pair :: found.1, found.2)) = _
          rw [ih others_read (by omega)]
          rfl
      · next others closing =>
          obtain ⟨rfl, rfl⟩ := Prod.mk.inj (Option.some.inj next)
          rw [skipBlanks_append (by simp [closing]), closing]
          rfl
      · cases next

theorem inlineTable_kept : IsKept (inlineTable value) := by
  intro text found rest read tail ends
  unfold inlineTable at read
  split at read
  · next others closing =>
      cases read
      rw [inlineTable, skipBlanks_append (by simp [closing]), closing]
      rfl
  · next not_closing =>
      obtain ⟨⟨pairs, behind⟩, pairs_read, built⟩ :=
        Option.bind_eq_some_iff.mp read
      obtain ⟨entries, folded, last⟩ := Option.bind_eq_some_iff.mp built
      obtain ⟨rfl, rfl⟩ := Prod.mk.inj (Option.some.inj last)
      cases started : skipBlanks text with
      | nil =>
          rw [started] at pairs_read
          cases pairs_read
      | cons c others =>
          have open_still : c ≠ '\x7d' := by
            rintro rfl
            exact not_closing others started
          rw [started] at pairs_read
          rw [inlineTable, skipBlanks_append (by simp [started]), started]
          split
          · next closing => exact absurd (List.cons.inj closing).1 open_still
          · rw [pairsWithin_kept kept nothing pairs_read (by simp) ends]
            dsimp only [Option.bind_eq_bind, Option.bind_some]
            rw [folded]
            rfl

end Containers

/-! ## Values -/

theorem word_kept {letters : String}
    (stays : ∀ c ∈ letters.toList, c ∉ lineEnders) (value : Value) :
    IsKept (word letters value) := by
  intro text found rest read tail ends
  obtain ⟨behind, begins, last⟩ := Option.bind_eq_some_iff.mp read
  obtain ⟨rfl, rfl⟩ := Prod.mk.inj (Option.some.inj last)
  rw [word, isPrefixOf?_isLocal stays text tail ends, begins]
  rfl

theorem scalar_kept : IsKept scalar := by
  intro text found rest read tail ends
  have quoted (read : (string text).bind (fun content =>
        some (Value.string content.1, content.2)) = some (found, rest)) :
      ((string (text ++ tail)).bind fun content =>
        some (Value.string content.1, content.2)) =
          some (found, rest ++ tail) := by
    obtain ⟨⟨content, behind⟩, first, last⟩ :=
      Option.bind_eq_some_iff.mp read
    obtain ⟨rfl, rfl⟩ := Prod.mk.inj (Option.some.inj last)
    rw [string_kept first ends]
    rfl
  unfold scalar at read
  split at read
  · exact quoted read
  · exact quoted read
  · exact word_kept (by simp [lineEnders]) _ read ends
  · exact word_kept (by simp [lineEnders]) _ read ends
  · next not_basic not_literal not_true not_false =>
      cases text with
      | nil => cases read
      | cons c others =>
          have same : scalar (c :: others ++ tail) =
              numeric (c :: others ++ tail) := by
            rw [List.cons_append, scalar.eq_5]
            all_goals
              rintro behind starts
              obtain ⟨rfl, -⟩ := List.cons.inj starts
            · exact not_basic others rfl
            · exact not_literal others rfl
            · exact not_true others rfl
            · exact not_false others rfl
          rw [same]
          exact numeric_isLocal.isKept read ends

theorem valueWithin_nil (depth : Nat) : valueWithin depth [] = none := by
  cases depth <;> rfl

/-- A container is opened by its first character. -/
def opensContainer (c : Char) : Bool := c == '[' || c == '\x7b'

theorem valueWithin_scalar (depth : Nat) {c : Char}
    (bare : opensContainer c = false) (text : List Char) :
    valueWithin depth (c :: text) = scalar (c :: text) := by
  rw [opensContainer, Bool.or_eq_false_iff, beq_eq_false_iff_ne,
    beq_eq_false_iff_ne] at bare
  cases depth <;> simp [valueWithin, bare]

theorem valueWithin_kept (depth : Nat) : IsKept (valueWithin depth) := by
  have scalars (depth : Nat) {c : Char} (bare : opensContainer c = false)
      {text rest : List Char} {found : Value}
      (read : valueWithin depth (c :: text) = some (found, rest))
      {tail : List Char} (ends : EndsLine tail) :
      valueWithin depth (c :: text ++ tail) = some (found, rest ++ tail) := by
    rw [valueWithin_scalar depth bare] at read
    rw [List.cons_append, valueWithin_scalar depth bare]
    exact scalar_kept read ends
  induction depth with
  | zero =>
      intro text found rest read tail ends
      cases text with
      | nil => cases read
      | cons c others =>
          refine scalars 0 ?_ read ends
          by_contra opening
          rw [Bool.not_eq_false, opensContainer, Bool.or_eq_true, beq_iff_eq,
            beq_iff_eq] at opening
          rcases opening with rfl | rfl <;> cases read
  | succ depth ih =>
      intro text found rest read tail ends
      cases text with
      | nil => cases read
      | cons c others =>
          by_cases list : c = '['
          · subst list
            obtain ⟨⟨items, behind⟩, first, last⟩ :=
              Option.bind_eq_some_iff.mp read
            obtain ⟨rfl, rfl⟩ := Prod.mk.inj (Option.some.inj last)
            have kept := itemsWithin_kept ih (valueWithin_nil depth) first
              (by simp : _ ≤ (others ++ tail).length + 1) ends
            change ((itemsWithin (valueWithin depth)
              ((others ++ tail).length + 1) (others ++ tail)).bind
                fun found => some (Value.array found.1, found.2)) = _
            rw [kept]
            rfl
          by_cases table : c = '\x7b'
          · subst table
            exact inlineTable_kept ih (valueWithin_nil depth) read ends
          · exact scalars _ (by simp [opensContainer, list, table]) read ends

theorem value_kept : IsKept value := valueWithin_kept 79

end MeterWatch.Toml
