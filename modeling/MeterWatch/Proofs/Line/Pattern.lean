import MeterWatch.Line.Pattern
import Mathlib.Computability.Language
import Mathlib.Data.List.TakeWhile

/-!
# Languages of fields

A field is a word of a language made up of literals and runs.  A reader that
looks at one place recognises a language if it succeeds exactly where a word of
that language starts; trying all places then finds a word exactly if the text
holds one.
-/

namespace MeterWatch.Line

/-! ## Languages -/

def literal (text : String) : Language Char := {text.toList}

def manyOf (allowed : Char → Bool) : Language Char :=
  {word | ∀ c ∈ word, allowed c = true}

def someOf (allowed : Char → Bool) : Language Char :=
  {word | word ≠ [] ∧ word ∈ manyOf allowed}

@[simp] theorem mem_literal {text : String} {word : List Char} :
    word ∈ literal text ↔ word = text.toList := Iff.rfl

@[simp] theorem mem_manyOf {allowed : Char → Bool} {word : List Char} :
    word ∈ manyOf allowed ↔ ∀ c ∈ word, allowed c = true := Iff.rfl

@[simp] theorem mem_someOf {allowed : Char → Bool} {word : List Char} :
    word ∈ someOf allowed ↔ word ≠ [] ∧ ∀ c ∈ word, allowed c = true := Iff.rfl

theorem exists_mem_literal {text : String} {p : List Char → Prop} :
    (∃ word ∈ literal text, p word) ↔ p text.toList := by
  simp

theorem exists_mem_mul {first second : Language Char}
    {p : List Char → Prop} :
    (∃ word ∈ first * second, p word) ↔
      ∃ left ∈ first, ∃ right ∈ second, p (left ++ right) := by
  constructor
  · rintro ⟨_, ⟨left, hleft, right, hright, rfl⟩, h⟩
    exact ⟨left, hleft, right, hright, h⟩
  · rintro ⟨left, hleft, right, hright, h⟩
    exact ⟨left ++ right, Language.append_mem_mul hleft hright, h⟩

/-- The text begins with a word of the language, and this is left behind it. -/
def Leaves (language : Language Char) (text rest : List Char) : Prop :=
  ∃ word ∈ language, word ++ rest = text

@[simp] theorem leaves_literal {text : String} {place rest : List Char} :
    Leaves (literal text) place rest ↔ text.toList ++ rest = place := by
  simp [Leaves]

theorem leaves_mul {first second : Language Char} {text rest : List Char} :
    Leaves (first * second) text rest ↔
      ∃ middle, Leaves first text middle ∧ Leaves second middle rest := by
  simp only [Leaves, exists_mem_mul, List.append_assoc]
  constructor
  · rintro ⟨left, hleft, right, hright, rfl⟩
    exact ⟨right ++ rest, ⟨left, hleft, rfl⟩, right, hright, rfl⟩
  · rintro ⟨_, ⟨left, hleft, rfl⟩, right, hright, rfl⟩
    exact ⟨left, hleft, right, hright, rfl⟩

/-! ## Runs -/

/-- A text that does not go on with a class. -/
def Stops (allowed : Char → Bool) (rest : List Char) : Prop :=
  ∀ c ∈ rest.head?, allowed c = false

theorem stops_dropWhile (allowed : Char → Bool) (text : List Char) :
    Stops allowed (text.dropWhile allowed) := by
  intro c first
  have last := List.head?_dropWhile_not allowed text
  rw [first] at last
  simpa using last

theorem takeWhile_append {allowed : Char → Bool} {run rest : List Char}
    (all : ∀ c ∈ run, allowed c = true) (stops : Stops allowed rest) :
    (run ++ rest).takeWhile allowed = run ∧
      (run ++ rest).dropWhile allowed = rest := by
  rw [List.takeWhile_append_of_pos all, List.dropWhile_append_of_pos all]
  cases rest with
  | nil => simp
  | cons c rest =>
      have other : allowed c = false := stops c rfl
      simp [other]

theorem stops_cons {allowed : Char → Bool} {c : Char}
    (other : allowed c = false) (rest : List Char) :
    Stops allowed (c :: rest) := by
  rintro d ⟨⟩
  exact other

theorem stops_someOf {first second : Char → Bool}
    (apart : ∀ c, first c = true → second c = false) {run : List Char}
    (member : run ∈ someOf first) (rest : List Char) :
    Stops second (run ++ rest) := by
  obtain ⟨nonempty, all⟩ := member
  obtain ⟨c, others, rfl⟩ := List.exists_cons_of_ne_nil nonempty
  exact stops_cons (apart c (all c List.mem_cons_self)) _

/-! ## Readers at one place -/

theorem after?_eq_some_iff {text : String} {place rest : List Char} :
    after? text place = some rest ↔ Leaves (literal text) place rest := by
  rw [leaves_literal]
  exact List.isPrefixOf?_eq_some_iff_append_eq

theorem run?_eq_some_iff {allowed : Char → Bool} {text run rest : List Char} :
    run? allowed text = some (run, rest) ↔
      run ∈ someOf allowed ∧ run ++ rest = text ∧ Stops allowed rest := by
  simp only [run?]
  constructor
  · intro found
    split at found
    · cases found
    · rename_i nonempty
      cases found
      refine ⟨⟨by simpa using nonempty, ?_⟩,
        List.takeWhile_append_dropWhile, stops_dropWhile allowed text⟩
      exact fun c member => List.mem_takeWhile_imp member
  · rintro ⟨⟨nonempty, all⟩, rfl, stops⟩
    obtain ⟨run_eq, rest_eq⟩ := takeWhile_append all stops
    simp [run_eq, rest_eq, nonempty]

/-- Behind a run stands a text that does not go on with its class. -/
theorem runBefore?_eq_some_iff {allowed : Char → Bool} {text : String}
    (stops : ∀ rest, Stops allowed (text.toList ++ rest))
    {place run : List Char} :
    runBefore? allowed text place = some run ↔
      run ∈ someOf allowed ∧ run ++ text.toList <+: place := by
  simp only [runBefore?, Option.bind_eq_bind, Option.bind_eq_some_iff,
    Prod.exists, run?_eq_some_iff, after?_eq_some_iff, leaves_literal]
  constructor
  · rintro ⟨_, _, ⟨member, rfl, -⟩, rest, rfl, ⟨⟩⟩
    exact ⟨member, rest, List.append_assoc ..⟩
  · rintro ⟨member, rest, rfl⟩
    exact ⟨run, text.toList ++ rest,
      ⟨member, (List.append_assoc ..).symm, stops rest⟩, rest, rfl, rfl⟩

/-! ## Recognised languages -/

section Recognition

variable {α : Type} {read? : List Char → Option α} {language : Language Char}

def Begins (language : Language Char) (text : List Char) : Prop :=
  ∃ word ∈ language, word <+: text

theorem begins_iff_leaves {text : List Char} :
    Begins language text ↔ ∃ rest, Leaves language text rest := by
  constructor
  · rintro ⟨word, member, rest, rfl⟩
    exact ⟨rest, word, member, rfl⟩
  · rintro ⟨rest, word, member, rfl⟩
    exact ⟨word, member, List.prefix_append word rest⟩

theorem begins_mul {first second : Language Char} {text : List Char} :
    Begins (first * second) text ↔
      ∃ middle, Leaves first text middle ∧ Begins second middle := by
  simp only [begins_iff_leaves, leaves_mul]
  constructor
  · rintro ⟨rest, middle, before, behind⟩
    exact ⟨middle, before, rest, behind⟩
  · rintro ⟨middle, before, rest, behind⟩
    exact ⟨rest, middle, before, behind⟩

theorem begins_manyOf_mul_nil {allowed : Char → Bool} :
    Begins (manyOf allowed * language) [] ↔ Begins language [] := by
  simp [begins_mul, Leaves]

theorem begins_manyOf_mul_cons {allowed : Char → Bool} {c : Char}
    {text : List Char} :
    Begins (manyOf allowed * language) (c :: text) ↔
      Begins language (c :: text) ∨
        allowed c = true ∧ Begins (manyOf allowed * language) text := by
  simp only [begins_mul]
  constructor
  · rintro ⟨middle, ⟨run, all, text_eq⟩, begins⟩
    cases run with
    | nil => exact .inl (text_eq ▸ begins)
    | cons d run =>
        cases text_eq
        exact .inr ⟨all c List.mem_cons_self, middle,
          ⟨run, fun d member => all d (List.mem_cons_of_mem c member), rfl⟩,
          begins⟩
  · rintro (begins | ⟨first, middle, ⟨run, all, rfl⟩, begins⟩)
    · exact ⟨c :: text, ⟨[], by simp, rfl⟩, begins⟩
    · exact ⟨middle, ⟨c :: run, by simpa [first] using all, rfl⟩, begins⟩

/-- The reader succeeds exactly where a word of the language starts. -/
def Recognises (read? : List Char → Option α) (language : Language Char) :
    Prop :=
  ∀ text, (read? text).isSome = true ↔ Begins language text

theorem Recognises.after? (h : Recognises read? language) (text : String) :
    Recognises (fun place => do
      let rest ← Line.after? text place
      read? rest) (literal text * language) := by
  intro place
  simp only [Option.isSome_iff_exists, Option.bind_eq_bind,
    Option.bind_eq_some_iff, begins_mul, after?_eq_some_iff]
  constructor
  · rintro ⟨found, rest, start, read⟩
    exact ⟨rest, start, (h rest).mp (Option.isSome_of_eq_some read)⟩
  · rintro ⟨rest, start, begins⟩
    obtain ⟨found, read⟩ := Option.isSome_iff_exists.mp ((h rest).mpr begins)
    exact ⟨found, rest, start, read⟩

theorem recognises_some (found : α) : Recognises (fun _ => some found) 1 := by
  intro text
  simp [Begins, Language.mem_one]

theorem leftmost?_isSome_iff (text : List Char) :
    (leftmost? read? text).isSome = true ↔
      ∃ place, place <:+ text ∧ (read? place).isSome = true := by
  induction text with
  | nil => simp [leftmost?]
  | cons c rest ih =>
      simp only [List.suffix_cons_iff, or_and_right, exists_or,
        exists_eq_left, ← ih]
      rw [leftmost?]
      cases read? (c :: rest) <;> simp

theorem Recognises.leftmost? (h : Recognises read? language)
    (text : List Char) :
    (Line.leftmost? read? text).isSome = true ↔
      ∃ word ∈ language, word <:+: text := by
  rw [leftmost?_isSome_iff]
  constructor
  · rintro ⟨place, suffix, found⟩
    obtain ⟨word, member, start⟩ := (h place).mp found
    exact ⟨word, member, start.isInfix.trans suffix.isInfix⟩
  · rintro ⟨word, member, inside⟩
    obtain ⟨place, start, suffix⟩ := List.infix_iff_prefix_suffix.mp inside
    exact ⟨place, suffix, (h place).mpr ⟨word, member, start⟩⟩

end Recognition

/-! ## First places -/

/-- Nothing is found before this place. -/
structure IsFirst {α : Type} (found : Nat → α → Prop) (place : Nat)
    (value : α) : Prop where
  here : found place value
  first : ∀ other value', found other value' → place ≤ other

section First

variable {α : Type} {read? : List Char → Option α}

theorem leftmost?_eq_none {text : List Char}
    (failed : leftmost? read? text = none) (place : Nat) :
    read? (text.drop place) = none := by
  induction text generalizing place with
  | nil => simpa [leftmost?] using failed
  | cons c rest ih =>
      rw [leftmost?] at failed
      split at failed
      · cases failed
      · next here =>
          cases place with
          | zero => exact here
          | succ place => exact ih failed place

theorem exists_leftmost_place {text : List Char} {found : α}
    (read : leftmost? read? text = some found) :
    ∃ place, read? (text.drop place) = some found ∧
      ∀ smaller < place, read? (text.drop smaller) = none := by
  induction text with
  | nil => exact ⟨0, by simpa [leftmost?] using read, by simp⟩
  | cons c rest ih =>
      rw [leftmost?] at read
      split at read
      · next other here => exact ⟨0, here.trans read, by simp⟩
      · next here =>
          obtain ⟨place, behind, before⟩ := ih read
          refine ⟨place + 1, behind, fun smaller h => ?_⟩
          cases smaller with
          | zero => exact here
          | succ smaller => exact before smaller (by omega)

variable {found : Nat → α → Prop} {text : List Char}
  (h : ∀ place value, read? (text.drop place) = some value ↔ found place value)

include h

theorem leftmost?_eq_none_iff :
    leftmost? read? text = none ↔ ∀ place value, ¬ found place value := by
  constructor
  · intro failed place value here
    rw [← h, leftmost?_eq_none failed place] at here
    cases here
  · intro nowhere
    by_contra read
    obtain ⟨value, read⟩ := Option.ne_none_iff_exists'.mp read
    obtain ⟨place, here, -⟩ := exists_leftmost_place read
    exact nowhere place value ((h place value).mp here)

theorem leftmost?_eq_some_iff {value : α} :
    leftmost? read? text = some value ↔
      ∃ place, IsFirst found place value := by
  constructor
  · intro read
    obtain ⟨place, here, before⟩ := exists_leftmost_place read
    refine ⟨place, (h place value).mp here, fun other value' elsewhere => ?_⟩
    by_contra earlier
    rw [← h, before other (by omega)] at elsewhere
    cases elsewhere
  · rintro ⟨place, here, first⟩
    cases read : leftmost? read? text with
    | none =>
        exact absurd here ((leftmost?_eq_none_iff h).mp read place value)
    | some value' =>
        obtain ⟨other, other_here, before⟩ := exists_leftmost_place read
        have reached := first other value' ((h other value').mp other_here)
        have same : place = other := by
          by_contra apart
          have skipped := before place (by omega)
          rw [(h place value).mpr here] at skipped
          cases skipped
        rw [← (h place value).mpr here, ← other_here, same]

theorem exists_first {place : Nat} {value : α} (here : found place value) :
    ∃ place value, IsFirst found place value := by
  have read : leftmost? read? text ≠ none := fun failed =>
    (leftmost?_eq_none_iff h).mp failed place value here
  obtain ⟨first, read⟩ := Option.ne_none_iff_exists'.mp read
  obtain ⟨place, isFirst⟩ := (leftmost?_eq_some_iff h).mp read
  exact ⟨place, first, isFirst⟩

end First

end MeterWatch.Line
