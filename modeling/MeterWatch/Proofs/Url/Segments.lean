import MeterWatch.Url.Reading
import Mathlib.Data.List.DropRight

/-!
# Segments behind a directory

Up to a slash the text of a path names a directory.  Plain segments behind that
slash are added to it as they are.
-/

namespace MeterWatch.Url

open Text (splitOn)

/-! ## Separators -/

theorem splitOn_append_separator {isSeparator : Char → Bool} {c : Char}
    (separates : isSeparator c = true) (first second : List Char) :
    splitOn isSeparator (first ++ c :: second) =
      splitOn isSeparator first ++ splitOn isSeparator second := by
  induction first with
  | nil => simp [splitOn, separates]
  | cons d rest ih =>
      rw [List.cons_append, splitOn, splitOn, ih]
      split
      · rfl
      · obtain ⟨part, parts, split_eq⟩ := List.exists_cons_of_ne_nil
          (Text.splitOn_ne_nil isSeparator rest)
        rw [split_eq]
        rfl

theorem splitOn_of_not_separator {isSeparator : Char → Bool}
    {text : List Char} (none : ∀ c ∈ text, isSeparator c = false) :
    splitOn isSeparator text = [text] := by
  induction text with
  | nil => rfl
  | cons c rest ih =>
      obtain ⟨other, others⟩ := List.forall_mem_cons.mp none
      rw [splitOn, ih others]
      simp [other]

theorem splitOn_replicate {isSeparator : Char → Bool} {c : Char}
    (separates : isSeparator c = true) (count : Nat) :
    splitOn isSeparator (List.replicate count c) =
      List.replicate (count + 1) [] := by
  induction count with
  | zero => rfl
  | succ count ih =>
      rw [List.replicate_succ, splitOn, ih, if_pos separates]
      rfl

/-! ## Plain words -/

/-- Small letters mean themselves wherever they stand in a url. -/
def IsWord (text : List Char) : Prop := ∀ c ∈ text, c.isLower = true

theorem isLower_bounds {c : Char} (lower : c.isLower = true) :
    0x61 ≤ c.toNat ∧ c.toNat ≤ 0x7A := by
  obtain ⟨above, below⟩ := Bool.and_eq_true_iff.mp lower
  exact ⟨of_decide_eq_true above, of_decide_eq_true below⟩

theorem not_mem_of_isLower {c : Char} (lower : c.isLower = true)
    {others : List Char} (not_lower : others.all (!·.isLower) = true) :
    c ∉ others := by
  intro member
  have not_lower := List.all_eq_true.mp not_lower c member
  rw [lower] at not_lower
  cases not_lower

theorem isSlash_of_isLower {c : Char} (lower : c.isLower = true)
    (kind : SchemeKind) : kind.isSlash c = false := by
  have other : c ∉ ['/', '\\'] := not_mem_of_isLower lower (by decide)
  simp only [List.mem_cons, List.not_mem_nil, or_false, not_or] at other
  simp [SchemeKind.isSlash, other]

theorem isPathEnd_of_isLower {c : Char} (lower : c.isLower = true) :
    isPathEnd c = false := by
  have other : c ∉ ['?', '#'] := not_mem_of_isLower lower (by decide)
  simp only [List.mem_cons, List.not_mem_nil, or_false, not_or] at other
  simp [isPathEnd, other]

theorem inPathSet_of_isLower {c : Char} (lower : c.isLower = true) :
    inPathSet c = false := by
  have bounds := isLower_bounds lower
  have control : isControl c = false := by
    simp [isControl]
    omega
  simp only [inPathSet, inFragmentSet, control, Bool.false_or,
    Bool.or_eq_false_iff, decide_eq_false_iff_not]
  exact ⟨not_mem_of_isLower lower (by decide),
    not_mem_of_isLower lower (by decide)⟩

theorem encode_word {text : List Char} (word : IsWord text) :
    encode inPathSet text = text := by
  induction text with
  | nil => rfl
  | cons c rest ih =>
      obtain ⟨lower, others⟩ := List.forall_mem_cons.mp word
      have bounds := isLower_bounds lower
      have plain : (inPathSet c || decide (0x80 ≤ c.toNat)) = false := by
        simp [inPathSet_of_isLower lower]
        omega
      rw [encode, List.flatMap_cons, plain, if_neg (by decide), ← encode,
        ih others, List.singleton_append]

theorem IsWord.map_toLower {text : List Char} (word : IsWord text) :
    text.map Char.toLower = text := by
  refine (List.map_congr_left fun c member => ?_).trans (List.map_id text)
  have bounds := isLower_bounds (word c member)
  have not_upper : ¬ (c.val ≥ 'A'.val ∧ c.val ≤ 'Z'.val) := by
    rintro ⟨-, upper⟩
    have low : c.toNat ≤ 0x5A := upper
    omega
  exact dif_neg not_upper

theorem IsWord.ofList_ne {text : List Char} (word : IsWord text)
    (marked : String) (other : marked.toList.any (!·.isLower) = true) :
    String.ofList text ≠ marked := by
  rintro rfl
  obtain ⟨c, member, not_lower⟩ := List.any_eq_true.mp other
  rw [String.toList_ofList] at member
  rw [word c member] at not_lower
  cases not_lower

theorem IsWord.not_isDot {text : List Char} (word : IsWord text) :
    isDot text = false := by
  simp [isDot, word.map_toLower, word.ofList_ne "." (by decide),
    word.ofList_ne "%2e" (by decide)]

theorem IsWord.not_isDoubleDot {text : List Char} (word : IsWord text) :
    isDoubleDot text = false := by
  simp [isDoubleDot, word.map_toLower, word.ofList_ne ".." (by decide),
    word.ofList_ne "%2e." (by decide), word.ofList_ne ".%2e" (by decide),
    word.ofList_ne "%2e%2e" (by decide)]

theorem IsWord.not_isDriveLetter {text : List Char} (word : IsWord text) :
    isDriveLetter text = false := by
  unfold isDriveLetter
  split
  · next letter mark =>
      have other : mark ∉ [':', '|'] :=
        not_mem_of_isLower (word mark (by simp)) (by decide)
      simp only [List.mem_cons, List.not_mem_nil, or_false, not_or] at other
      simp [other]
  · rfl

/-! ## Directories -/

/-- The directory that a segment leads to when others follow it. -/
def enter (kind : SchemeKind) (directory : List (List Char))
    (segment : List Char) : List (List Char) :=
  if isDoubleDot segment then dropSegment kind directory
  else if isDot segment then directory
  else appendSegment kind directory segment

theorem addSegments_append (kind : SchemeKind)
    (base first : List (List Char)) {second : List (List Char)}
    (nonempty : second ≠ []) :
    addSegments kind base (first ++ second) =
      addSegments kind (first.foldl (enter kind) base) second := by
  induction first generalizing base with
  | nil => rfl
  | cons segment rest ih =>
      obtain ⟨next, others, more⟩ : ∃ next others,
          rest ++ second = next :: others :=
        List.exists_cons_of_ne_nil (by simp [nonempty])
      rw [List.foldl_cons, ← ih, List.cons_append, more, addSegments, enter]
      split
      · rfl
      · split <;> rfl
      simp

theorem appendSegment_word {kind : SchemeKind} {segment : List Char}
    (word : IsWord segment) (base : List (List Char)) :
    appendSegment kind base segment = base ++ [segment] := by
  unfold appendSegment
  split
  · next letter mark =>
      rw [if_neg (by simp [word.not_isDriveLetter])]
      rfl
  · rfl

theorem addSegments_words (kind : SchemeKind) (base : List (List Char))
    {segments : List (List Char)} (nonempty : segments ≠ [])
    (words : ∀ segment ∈ segments, IsWord segment) :
    addSegments kind base segments = base ++ segments := by
  induction segments generalizing base with
  | nil => exact absurd rfl nonempty
  | cons segment rest ih =>
      obtain ⟨word, others⟩ := List.forall_mem_cons.mp words
      cases rest with
      | nil =>
          simp [addSegments, word.not_isDot, word.not_isDoubleDot,
            appendSegment_word word]
      | cons next rest =>
          rw [addSegments, word.not_isDoubleDot, word.not_isDot,
            if_neg (by decide), if_neg (by decide), ih _ (by simp) others,
            appendSegment_word word, List.append_assoc, List.singleton_append]
          simp

/-- The directory that the text of a path leads to if a slash follows it. -/
def directory (kind : SchemeKind) (text : List Char) : List (List Char) :=
  ((splitOn kind.isSlash text).map (encode inPathSet)).foldl (enter kind) []

theorem resolve_words (kind : SchemeKind) (base : List (List Char))
    {text : List Char}
    (words : ∀ segment ∈ splitOn kind.isSlash text, IsWord segment) :
    resolve kind base text =
      trimSegments kind (base ++ splitOn kind.isSlash text) := by
  have encoded : (splitOn kind.isSlash text).map (encode inPathSet) =
      splitOn kind.isSlash text :=
    (List.map_congr_left fun segment member =>
      encode_word (words segment member)).trans (List.map_id _)
  rw [resolve, encoded,
    addSegments_words kind base (Text.splitOn_ne_nil _ _) words]

theorem resolve_append {kind : SchemeKind} (first : List Char)
    {second : List Char}
    (words : ∀ segment ∈ splitOn kind.isSlash second, IsWord segment) :
    resolve kind [] (first ++ '/' :: second) =
      trimSegments kind
        (directory kind first ++ splitOn kind.isSlash second) := by
  have slash : kind.isSlash '/' = true := by simp [SchemeKind.isSlash]
  rw [← resolve_words kind _ words, resolve, resolve, directory,
    splitOn_append_separator slash, List.map_append,
    addSegments_append kind [] _ (by simp [Text.splitOn_ne_nil])]

/-! ## Last segments -/

/-- The directory of a path in its normal form. -/
def normalDirectory (kind : SchemeKind) (directory : List (List Char)) :
    List (List Char) :=
  if kind = .file then directory.dropWhile List.isEmpty else directory

theorem normalDirectory_normalDirectory (kind : SchemeKind)
    (directory : List (List Char)) :
    normalDirectory kind (normalDirectory kind directory) =
      normalDirectory kind directory := by
  unfold normalDirectory
  split
  · exact List.dropWhile_idempotent _ _
  · rfl

theorem trimSegments_append (kind : SchemeKind)
    (directory : List (List Char)) (last : List Char) :
    trimSegments kind (directory ++ [last]) =
      normalDirectory kind directory ++ [last] := by
  unfold trimSegments normalDirectory
  split
  · rw [List.dropWhile_append]
    cases names : directory.dropWhile List.isEmpty with
    | cons first rest => rfl
    | nil =>
        cases last with
        | cons c others => rfl
        | nil =>
            -- Only empty segments: one of them is left.
            have empty : ∀ segment ∈ directory, segment.isEmpty = true :=
              List.dropWhile_eq_nil_iff.mp names
            cases directory with
            | nil => rfl
            | cons first rest =>
                have first_empty := empty first List.mem_cons_self
                rw [List.isEmpty_iff] at first_empty
                subst first_empty
                rfl
  · rfl

/-- The place of the empty segment behind a final slash is free. -/
theorem dropSegment_append_nil (kind : SchemeKind)
    (directory : List (List Char)) :
    dropSegment kind (directory ++ [[]]) = directory := by
  unfold dropSegment
  split
  · next segment single =>
      obtain ⟨rfl, rfl⟩ : directory = [] ∧ [] = segment := by
        cases directory with
        | nil => exact ⟨rfl, (List.cons.inj single).1⟩
        | cons first rest => simp at single
      rfl
  · exact List.dropLast_concat

end MeterWatch.Url
