import MeterWatch.Proofs.Json.Literal
import MeterWatch.Proofs.Json.Spelling

/-!
# How written parts begin

Behind its blanks a written part begins with a character that tells it apart
from the others, and the parts it is made of follow.
-/

namespace MeterWatch.Json

/-! ## Blanks -/

theorem isBlank_iff (c : Char) : isBlank c = true ↔ c ∈ blanks := by
  simp [isBlank, blanks, or_assoc]

theorem skipBlanks_blank {c : Char} (h : c ∈ blanks) (text : List Char) :
    skipBlanks (c :: text) = skipBlanks text :=
  List.dropWhile_cons_of_pos ((isBlank_iff c).mpr h)

theorem skipBlanks_all {text : List Char} (h : ∀ c ∈ text, c ∈ blanks) :
    skipBlanks text = [] := by
  induction text with
  | nil => rfl
  | cons c text ih =>
      obtain ⟨blank, others⟩ := List.forall_mem_cons.mp h
      rw [skipBlanks_blank blank, ih others]

@[simp] theorem skipBlanks_skipBlanks (text : List Char) :
    skipBlanks (skipBlanks text) = skipBlanks text := by
  induction text with
  | nil => rfl
  | cons c text ih =>
      cases blank : isBlank c with
      | false => simp [skipBlanks, blank]
      | true =>
          rw [skipBlanks_blank ((isBlank_iff c).mp blank)]
          exact ih

/-- What holds behind the blanks of a text and is kept by a blank before it
holds of the text. -/
theorem of_skipBlanks (property : List Char → Prop)
    (blank : ∀ c ∈ blanks, ∀ text, property text → property (c :: text))
    {text : List Char} (h : property (skipBlanks text)) : property text := by
  induction text with
  | nil => exact h
  | cons c text ih =>
      cases isBlank_eq : isBlank c with
      | true =>
          rw [isBlank_iff] at isBlank_eq
          rw [skipBlanks_blank isBlank_eq] at h
          exact blank c isBlank_eq text (ih h)
      | false => simpa [skipBlanks, isBlank_eq] using h

theorem endsNumber_blank {c : Char} (h : c ∈ blanks) (rest : List Char) :
    EndsNumber (c :: rest) := by
  simp only [blanks, List.mem_cons, List.not_mem_nil, or_false] at h
  rcases h with rfl | rfl | rfl | rfl <;> rintro c ⟨⟩ <;> decide

theorem IsNumber.exists_first {literal : List Char} (h : IsNumber literal) :
    ∃ c others, literal = c :: others ∧ (c = '-' ∨ c.isDigit = true) := by
  cases h with
  | unsigned unsigned =>
      obtain ⟨c, others, literal_eq, digit⟩ := unsigned.exists_digit
      exact ⟨c, others, literal_eq, .inr digit⟩
  | negative _ => exact ⟨'-', _, rfl, .inl rfl⟩

theorem skipBlanks_number {literal : List Char} (h : IsNumber literal)
    (rest : List Char) : skipBlanks (literal ++ rest) = literal ++ rest := by
  obtain ⟨c, others, rfl, first⟩ := h.exists_first
  have not_blank : isBlank c = false := by
    rcases first with rfl | digit
    · rfl
    · exact isDigit_not_blank digit
  simp [skipBlanks, not_blank]

/-! ## First characters -/

/-- How a part is written without blanks before it. -/
def Begins : Part → List Char → List Char → Prop
  | .value .null, text, rest => text = 'n' :: 'u' :: 'l' :: 'l' :: rest
  | .value (.boolean true), text, rest =>
      text = 't' :: 'r' :: 'u' :: 'e' :: rest
  | .value (.boolean false), text, rest =>
      text = 'f' :: 'a' :: 'l' :: 's' :: 'e' :: rest
  | .value (.number literal), text, rest =>
      IsNumber literal ∧ text = literal ++ rest
  | .value (.string content), text, rest =>
      ∃ inner, text = '"' :: inner ∧ Spelled content inner rest
  | .value (.list elements), text, rest =>
      ∃ inner, text = '[' :: inner ∧ Written (.elements elements) inner rest
  | .value (.object members), text, rest =>
      ∃ inner, text = '\x7b' :: inner ∧ Written (.members members) inner rest
  | .elements [], text, rest => text = ']' :: rest
  | .elements (value :: others), text, rest =>
      ∃ middle, Written (.value value) text middle ∧
        Written (.moreElements others) middle rest
  | .moreElements [], text, rest => text = ']' :: rest
  | .moreElements (value :: others), text, rest =>
      ∃ inner middle, text = ',' :: inner ∧
        Written (.value value) inner middle ∧
        Written (.moreElements others) middle rest
  | .members [], text, rest => text = '\x7d' :: rest
  | .members ((key, value) :: others), text, rest =>
      Written (.member key value others) text rest
  | .moreMembers [], text, rest => text = '\x7d' :: rest
  | .moreMembers ((key, value) :: others), text, rest =>
      ∃ inner, text = ',' :: inner ∧
        Written (.member key value others) inner rest
  | .member key value others, text, rest =>
      ∃ inner middle, text = '"' :: inner ∧ Spelled key inner middle ∧
        Written (.keyed value others) middle rest
  | .keyed value others, text, rest =>
      ∃ inner middle, text = ':' :: inner ∧
        Written (.value value) inner middle ∧
        Written (.moreMembers others) middle rest

theorem Written.unblanked {part : Part} {text rest : List Char}
    (h : Written part text rest) : Written part (skipBlanks text) rest := by
  induction h with
  | blank isBlank _ ih => rwa [skipBlanks_blank isBlank]
  | number isNumber =>
      rw [skipBlanks_number isNumber]
      exact .number isNumber
  | firstElement _ h' ih _ => exact .firstElement ih h'
  | firstMember _ ih => exact .firstMember ih
  | null => exact .null
  | trueWord => exact .trueWord
  | falseWord => exact .falseWord
  | string h => exact .string h
  | list h => exact .list h
  | object h => exact .object h
  | noElements => exact .noElements
  | lastElement => exact .lastElement
  | nextElement h h' => exact .nextElement h h'
  | noMembers => exact .noMembers
  | lastMember => exact .lastMember
  | nextMember h => exact .nextMember h
  | key h h' => exact .key h h'
  | colon h h' => exact .colon h h'

theorem Written.begins {part : Part} {text rest : List Char}
    (h : Written part text rest) : Begins part (skipBlanks text) rest := by
  induction h with
  | blank isBlank _ ih => rwa [skipBlanks_blank isBlank]
  | number isNumber => exact ⟨isNumber, skipBlanks_number isNumber _⟩
  | firstElement h h' => exact ⟨_, h.unblanked, h'⟩
  | firstMember h => exact h.unblanked
  | string h => exact ⟨_, rfl, h⟩
  | list h => exact ⟨_, rfl, h⟩
  | object h => exact ⟨_, rfl, h⟩
  | nextElement h h' => exact ⟨_, _, rfl, h, h'⟩
  | nextMember h => exact ⟨_, rfl, h⟩
  | key h h' => exact ⟨_, _, rfl, h, h'⟩
  | colon h h' => exact ⟨_, _, rfl, h, h'⟩
  | null | trueWord | falseWord | noElements | lastElement | noMembers
  | lastMember => rfl

/-! ## First characters of values -/

def Value.StartsWith : Value → Char → Prop
  | .null, c => c = 'n'
  | .boolean _, c => c = 't' ∨ c = 'f'
  | .number _, c => c = '-' ∨ c.isDigit = true
  | .string _, c => c = '"'
  | .list _, c => c = '['
  | .object _, c => c = '\x7b'

theorem Written.first {value : Value} {text rest : List Char}
    (h : Written (.value value) text rest) :
    ∃ c others, skipBlanks text = c :: others ∧ value.StartsWith c := by
  have begins := h.begins
  cases value with
  | null => exact ⟨_, _, begins, rfl⟩
  | boolean value =>
      cases value
      · exact ⟨_, _, begins, .inr rfl⟩
      · exact ⟨_, _, begins, .inl rfl⟩
  | number literal =>
      obtain ⟨isNumber, text_eq⟩ := begins
      obtain ⟨c, others, rfl, first⟩ := isNumber.exists_first
      exact ⟨c, _, text_eq, first⟩
  | string | list | object =>
      obtain ⟨inner, text_eq, -⟩ := begins
      exact ⟨_, _, text_eq, rfl⟩

/-- Values of a kind start with characters of their own, and with none that
could stand after or between values. -/
theorem Value.StartsWith.ne {value : Value} {c : Char}
    (h : value.StartsWith c) : c ≠ ']' ∧ c ≠ ',' := by
  cases value with
  | number literal =>
      rcases h with rfl | digit
      · decide
      · constructor <;> rintro rfl <;> cases digit
  | boolean value => rcases h with rfl | rfl <;> decide
  | null | string | list | object => cases h; decide

/-! ## Lengths -/

def Part.count : Part → Nat
  | .value _ => 0
  | .elements values | .moreElements values => values.length
  | .members pairs | .moreMembers pairs => pairs.length
  | .member _ _ others | .keyed _ others => others.length + 1

theorem Written.count_lt {part : Part} {text rest : List Char}
    (h : Written part text rest) : part.count + rest.length < text.length := by
  induction h with
  | number isNumber =>
      obtain ⟨c, others, rfl, -⟩ := isNumber.exists_first
      simp only [Part.count, List.length_cons, List.length_append]
      omega
  | string spelled =>
      have shorter := spelled.length_lt
      simp only [Part.count, List.length_cons]
      omega
  | key spelled _ ih =>
      have shorter := spelled.length_lt
      simp only [Part.count, List.length_cons] at ih ⊢
      omega
  | blank _ _ ih | list _ ih | object _ ih | firstMember _ ih
  | nextMember _ ih =>
      simp only [Part.count, List.length_cons] at ih ⊢
      omega
  | firstElement _ _ ih ih' | nextElement _ _ ih ih' | colon _ _ ih ih' =>
      simp only [Part.count, List.length_cons] at ih ih' ⊢
      omega
  | null | trueWord | falseWord | noElements | lastElement | noMembers
  | lastMember =>
      simp only [Part.count, List.length_cons, List.length_nil]
      omega

/-! ## What follows a value -/

theorem Written.moreElements_ends {elements : List Value}
    {text rest : List Char} (h : Written (.moreElements elements) text rest) :
    EndsNumber text := by
  cases h with
  | blank isBlank _ => exact endsNumber_blank isBlank _
  | lastElement | nextElement _ _ => rintro c ⟨⟩; decide

theorem Written.moreMembers_ends {members : List (List Char × Value)}
    {text rest : List Char} (h : Written (.moreMembers members) text rest) :
    EndsNumber text := by
  cases h with
  | blank isBlank _ => exact endsNumber_blank isBlank _
  | lastMember | nextMember _ => rintro c ⟨⟩; decide

end MeterWatch.Json
