import MeterWatch.Proofs.Json.Skipping

/-!
# Readers decode values

A reader of texts does with every spelling of a value what a decoder does with
the value itself: it gives the same result, or fails, and stops where the value
ends.  Decoders of elements and members make up those of lists and objects.
-/

namespace MeterWatch.Json

variable {α β σ : Type}

/-- However a value is written, it is read as what it is decoded to. -/
def Decodes (read : Reader α) (decode : Value → Option α) : Prop :=
  ∀ ⦃value : Value⦄ ⦃text rest : List Char⦄,
    Written (.value value) text rest → EndsNumber rest →
      Reads read text (decode value) rest

/-! ## Scalars -/

def Value.number? : Value → Option Binary64
  | .number literal => numberOf? literal
  | _ => none

def Value.string? : Value → Option String
  | .string content => some (String.ofList content)
  | _ => none

def Value.orNull? (decode : Value → Option α) : Value → Option (Option α)
  | .null => some none
  | value => (decode value).map some

theorem readNumber_skipBlanks (text : List Char) :
    readNumber (skipBlanks text) = readNumber text := by
  simp [readNumber]

theorem readNumber_other {text : List Char} {c : Char} {others : List Char}
    (text_eq : skipBlanks text = c :: others)
    (h : ¬ (c = '-' ∨ c.isDigit = true)) :
    readNumber text = wrongType "f64" (c :: others) := by
  rw [not_or, Bool.not_eq_true] at h
  simp [readNumber, text_eq, h, startsWithDigit]

theorem readString_other {text : List Char} {c : Char} {others : List Char}
    (text_eq : skipBlanks text = c :: others) (h : c ≠ '"') :
    readString text = wrongType "a string" (c :: others) := by
  simp [readString, text_eq, h]

theorem decodes_readNumber : Decodes readNumber Value.number? := by
  intro value text rest written ends
  unfold Reads
  obtain ⟨c, others, text_eq, first⟩ := written.first
  cases value with
  | number literal =>
      obtain ⟨isNumber, literal_eq⟩ := written.begins
      rw [← readNumber_skipBlanks, literal_eq]
      exact readNumber_literal isNumber ends
  | boolean value =>
      have other : ¬ (c = '-' ∨ c.isDigit = true) := by
        rcases first with rfl | rfl <;> decide
      rw [readNumber_other text_eq other, toOption_wrongType]
      rfl
  | null | string | list | object =>
      cases first
      rw [readNumber_other text_eq (by decide), toOption_wrongType]
      rfl

theorem decodes_readString : Decodes readString Value.string? := by
  intro value text rest written ends
  unfold Reads
  obtain ⟨c, others, text_eq, first⟩ := written.first
  cases value with
  | string content =>
      obtain ⟨inner, quoted, spelled⟩ := written.begins
      simp [readString, quoted, string_spelled spelled]
      rfl
  | boolean value =>
      have other : c ≠ '"' := by rcases first with rfl | rfl <;> decide
      rw [readString_other text_eq other, toOption_wrongType]
      rfl
  | number literal =>
      have other : c ≠ '"' := by
        rcases first with rfl | digit
        · decide
        · rintro rfl
          cases digit
      rw [readString_other text_eq other, toOption_wrongType]
      rfl
  | null | list | object =>
      cases first
      rw [readString_other text_eq (by decide), toOption_wrongType]
      rfl

theorem readOptional_other (read : Reader α) {text : List Char} {c : Char}
    {others : List Char} (text_eq : skipBlanks text = c :: others)
    (h : c ≠ 'n') :
    readOptional read text = (do
      let (value, rest) ← read (c :: others)
      return (some value, rest)) := by
  simp [readOptional, text_eq, h]

theorem decodes_readOptional {read : Reader α} {decode : Value → Option α}
    (h : Decodes read decode) :
    Decodes (readOptional read) (Value.orNull? decode) := by
  intro value text rest written ends
  unfold Reads
  obtain ⟨c, others, text_eq, first⟩ := written.first
  by_cases null : value = .null
  · subst null
    have begins : skipBlanks text = 'n' :: 'u' :: 'l' :: 'l' :: rest :=
      written.begins
    simp [readOptional, begins]
    rfl
  · have not_null : c ≠ 'n' := by
      rintro rfl
      cases value with
      | null => exact null rfl
      | boolean value => rcases first with first | first <;> cases first
      | number literal => rcases first with first | first <;> cases first
      | string | list | object => cases first
    have decode_eq : value.orNull? decode = (decode value).map some := by
      cases value with
      | null => exact absurd rfl null
      | _ => rfl
    have read_eq : (read (skipBlanks text)).toOption = _ :=
      h written.unblanked ends
    rw [text_eq] at read_eq
    simp only [readOptional_other read text_eq not_null, decode_eq,
      toOption_bind, read_eq]
    cases decode value <;> rfl

/-! ## Elements -/

def elementsPart (first : Bool) (elements : List Value) : Part :=
  if first then .elements elements else .moreElements elements

theorem nextElement_nil {first : Bool} {text rest : List Char}
    (h : Written (elementsPart first []) text rest) :
    nextElement first text = .ok none ∧ endList text = .ok rest := by
  have begins : skipBlanks text = ']' :: rest := by
    cases first <;> exact h.begins
  simp [nextElement, endList, begins]

theorem nextElement_cons {first : Bool} {value : Value} {others : List Value}
    {text rest : List Char}
    (h : Written (elementsPart first (value :: others)) text rest) :
    ∃ element middle, nextElement first text = .ok (some element) ∧
      Written (.value value) element middle ∧
      Written (.moreElements others) middle rest := by
  cases first with
  | true =>
      obtain ⟨middle, written, more⟩ := h.begins
      obtain ⟨c, inner, text_eq, start⟩ := written.first
      rw [skipBlanks_skipBlanks] at text_eq
      refine ⟨skipBlanks text, middle, ?_, written, more⟩
      simp [nextElement, text_eq, start.ne.1]
  | false =>
      obtain ⟨inner, middle, text_eq, written, more⟩ := h.begins
      obtain ⟨c, others, inner_eq, start⟩ := written.first
      refine ⟨skipBlanks inner, middle, ?_, written.unblanked, more⟩
      simp [nextElement, text_eq, inner_eq, start.ne.1]

theorem endList_more {value : Value} {others : List Value}
    {text rest : List Char}
    (h : Written (.moreElements (value :: others)) text rest) :
    (endList text).toOption = none := by
  obtain ⟨inner, middle, text_eq, written, -⟩ := h.begins
  obtain ⟨c, others, inner_eq, start⟩ := written.first
  simp [endList, text_eq, inner_eq, start.ne.1]

theorem elementsWithin_written {read : Reader α} {decode : Value → Option α}
    (h : Decodes read decode) {elements : List Value} (first : Bool)
    {text rest : List Char}
    (written : Written (elementsPart first elements) text rest) {fuel : Nat}
    (enough : elements.length < fuel) :
    Reads (elementsWithin read fuel first) text (elements.mapM decode)
      rest := by
  induction elements generalizing first text fuel with
  | nil =>
      obtain ⟨fuel, rfl, -⟩ := exists_step enough
      obtain ⟨next, ended⟩ := nextElement_nil written
      unfold Reads
      simp only [elementsWithin, next, ended, ok_bind]
      rfl
  | cons value others ih =>
      obtain ⟨fuel, rfl, left⟩ := exists_step enough
      obtain ⟨element, middle, next, here, more⟩ := nextElement_cons written
      have read_eq : (read element).toOption = _ :=
        h here more.moreElements_ends
      have others_eq : (elementsWithin read fuel false middle).toOption = _ :=
        ih false more left
      unfold Reads
      simp only [elementsWithin, next, ok_bind, toOption_bind, read_eq,
        List.mapM_cons]
      cases decode value with
      | none => rfl
      | some value =>
          simp only [Option.map_some, Option.bind_some, others_eq]
          cases List.mapM decode others <;> rfl

def Value.listOf? (decode : Value → Option α) : Value → Option (List α)
  | .list elements => elements.mapM decode
  | _ => none

theorem openList_list {elements : List Value} (expected : String)
    {text rest : List Char}
    (h : Written (.value (.list elements)) text rest) :
    ∃ inner, openList expected text = .ok inner ∧
      Written (.elements elements) inner rest := by
  obtain ⟨inner, text_eq, written⟩ := h.begins
  refine ⟨inner, ?_, written⟩
  simp [openList, text_eq]

theorem openList_other {value : Value} (expected : String)
    {text rest : List Char} (h : Written (.value value) text rest)
    (other : ∀ elements, value ≠ .list elements) :
    (openList expected text).toOption = none := by
  obtain ⟨c, others, text_eq, first⟩ := h.first
  have not_list : c ≠ '[' := by
    rintro rfl
    cases value with
    | list elements => exact other elements rfl
    | boolean value => rcases first with first | first <;> cases first
    | number literal => rcases first with first | first <;> cases first
    | null | string | object => cases first
  simp [openList, text_eq, not_list]

theorem decodes_readList {read : Reader α} {decode : Value → Option α}
    (h : Decodes read decode) :
    Decodes (readList read) (Value.listOf? decode) := by
  intro value text rest written ends
  unfold Reads
  by_cases isList : ∃ elements, value = .list elements
  · obtain ⟨elements, rfl⟩ := isList
    obtain ⟨inner, opened, inside⟩ := openList_list "a sequence" written
    have enough : elements.length < inner.length + 1 :=
      Nat.lt_succ_of_lt (Nat.lt_of_le_of_lt (Nat.le_add_right _ _)
        inside.count_lt)
    simp only [readList, opened, ok_bind]
    exact elementsWithin_written h true inside enough
  · rw [not_exists] at isList
    have refused := openList_other "a sequence" written isList
    simp only [readList, toOption_bind, refused, Option.bind_none]
    cases value with
    | list elements => exact absurd rfl (isList elements)
    | _ => rfl

/-! ## Fixed numbers of elements -/

theorem elementAt_cons {read : Reader α} {decode : Value → Option α}
    (h : Decodes read decode) (expected : String) (index : Nat) {value : Value}
    {others : List Value} {text rest : List Char}
    (written : Written (elementsPart (index == 0) (value :: others))
      text rest) :
    ∃ middle, Written (.moreElements others) middle rest ∧
      Reads (elementAt expected index read) text (decode value) middle := by
  obtain ⟨element, middle, next, here, more⟩ := nextElement_cons written
  refine ⟨middle, more, ?_⟩
  unfold Reads
  simp only [elementAt, next, ok_bind]
  exact h here more.moreElements_ends

theorem elementAt_nil (read : Reader α) (expected : String) (index : Nat)
    {text rest : List Char}
    (written : Written (elementsPart (index == 0) []) text rest) :
    (elementAt expected index read text).toOption = none := by
  obtain ⟨next, ended⟩ := nextElement_nil written
  simp [elementAt, next, ended]

/-- After an element there is another list of elements to read. -/
theorem elementAt_bind {read : Reader α} {decode : Value → Option α}
    (h : Decodes read decode) (expected : String) (index : Nat)
    {elements : List Value} {text rest : List Char}
    (written : Written (elementsPart (index == 0) elements) text rest)
    {next : α × List Char → Option (β × List Char)}
    {after : α → List Value → Option β}
    (next_eq : ∀ value others middle,
      Written (.moreElements others) middle rest →
        next (value, middle) = (after value others).map (·, rest)) :
    (elementAt expected index read text).toOption.bind next =
      (elements.head?.bind fun first =>
        (decode first).bind (after · elements.tail)).map (·, rest) := by
  cases elements with
  | nil =>
      rw [elementAt_nil read expected index written]
      rfl
  | cons value others =>
      obtain ⟨middle, more, reads⟩ := elementAt_cons h expected index written
      unfold Reads at reads
      rw [reads]
      cases taken : decode value with
      | none => simp [taken]
      | some result => simp [taken, next_eq result others middle more]

/-! ## Members -/

def membersPart (first : Bool) (members : List (List Char × Value)) : Part :=
  if first then .members members else .moreMembers members

theorem nextKey_brace (first : Bool) {text rest : List Char}
    (brace : skipBlanks text = '\x7d' :: rest) :
    nextKey first text = .ok none ∧ endObject text = .ok rest := by
  simp [nextKey, endObject, brace]

theorem nextKey_nil {first : Bool} {text rest : List Char}
    (h : Written (membersPart first []) text rest) :
    nextKey first text = .ok none ∧ endObject text = .ok rest := by
  have begins : skipBlanks text = '\x7d' :: rest := by
    cases first <;> exact h.begins
  exact nextKey_brace first begins

theorem memberKey_member {key : List Char} {value : Value}
    {others : List (List Char × Value)} {text rest : List Char}
    (h : Written (.member key value others) text rest) :
    ∃ inner middle, skipBlanks text = '"' :: inner ∧
      memberKey (skipBlanks text) = .ok (key, middle) ∧
      Written (.keyed value others) middle rest := by
  obtain ⟨inner, middle, text_eq, spelled, keyed⟩ := h.begins
  refine ⟨inner, middle, text_eq, ?_, keyed⟩
  rw [text_eq]
  exact string_spelled spelled

theorem nextKey_cons {first : Bool} {key : List Char} {value : Value}
    {others : List (List Char × Value)} {text rest : List Char}
    (h : Written (membersPart first ((key, value) :: others)) text rest) :
    ∃ middle, nextKey first text = .ok (some (key, middle)) ∧
      Written (.keyed value others) middle rest := by
  cases first with
  | true =>
      have member : Written (.member key value others) (skipBlanks text) rest :=
        h.begins
      obtain ⟨inner, middle, text_eq, hkey, keyed⟩ := memberKey_member member
      rw [skipBlanks_skipBlanks] at text_eq hkey
      rw [text_eq] at hkey
      refine ⟨middle, ?_, keyed⟩
      simp [nextKey, text_eq, hkey]
  | false =>
      obtain ⟨text', text_eq, member⟩ := h.begins
      obtain ⟨inner, middle, -, hkey, keyed⟩ := memberKey_member member
      refine ⟨middle, ?_, keyed⟩
      simp [nextKey, text_eq, hkey]

theorem colon_keyed {value : Value} {others : List (List Char × Value)}
    {text rest : List Char} (h : Written (.keyed value others) text rest) :
    ∃ inner middle, colon text = .ok inner ∧
      Written (.value value) inner middle ∧
      Written (.moreMembers others) middle rest := by
  obtain ⟨inner, middle, text_eq, written, more⟩ := h.begins
  refine ⟨inner, middle, ?_, written, more⟩
  simp [colon, text_eq]

/-- Behind its key a member is read as what its value is decoded to. -/
def DecodesMember (member : σ → List Char → Reader σ)
    (step : σ → List Char × Value → Option σ) : Prop :=
  ∀ ⦃fields : σ⦄ ⦃key : List Char⦄ ⦃value : Value⦄
    ⦃text inner rest : List Char⦄, colon text = .ok inner →
      Written (.value value) inner rest → EndsNumber rest →
        Reads (member fields key) text (step fields (key, value)) rest

theorem membersWithin_written {member : σ → List Char → Reader σ}
    {step : σ → List Char × Value → Option σ} (h : DecodesMember member step)
    {members : List (List Char × Value)} (first : Bool) (fields : σ)
    {text rest : List Char}
    (written : Written (membersPart first members) text rest) {fuel : Nat}
    (enough : members.length < fuel) :
    Reads (membersWithin member fuel first fields) text
      (members.foldlM step fields) rest := by
  induction members generalizing first fields text fuel with
  | nil =>
      obtain ⟨fuel, rfl, -⟩ := exists_step enough
      obtain ⟨next, ended⟩ := nextKey_nil written
      unfold Reads
      simp only [membersWithin, next, ended, ok_bind]
      rfl
  | cons keyed others ih =>
      obtain ⟨key, value⟩ := keyed
      obtain ⟨fuel, rfl, left⟩ := exists_step enough
      obtain ⟨text', next, hkeyed⟩ := nextKey_cons written
      obtain ⟨inner, middle, hcolon, here, more⟩ := colon_keyed hkeyed
      have read_eq : (member fields key text').toOption = _ :=
        h hcolon here more.moreMembers_ends
      unfold Reads
      simp only [membersWithin, next, ok_bind, toOption_bind, read_eq,
        List.foldlM_cons]
      cases step fields (key, value) with
      | none => rfl
      | some fields =>
          exact ih false fields more left

theorem readMembers_written {member : σ → List Char → Reader σ}
    {step : σ → List Char × Value → Option σ} (h : DecodesMember member step)
    {members : List (List Char × Value)} (fields : σ) {text rest : List Char}
    (written : Written (.members members) text rest) :
    Reads (readMembers member fields) text (members.foldlM step fields)
      rest :=
  membersWithin_written h true fields written
    (Nat.lt_succ_of_lt (Nat.lt_of_le_of_lt (Nat.le_add_right _ _)
      written.count_lt))

theorem skipMember_written {text inner rest : List Char} {value : Value}
    (hcolon : colon text = .ok inner) (h : Written (.value value) inner rest)
    (ends : EndsNumber rest) : skipMember text = .ok rest := by
  rw [skipMember, hcolon, ok_bind, skipValue_written h ends]

/-! ## Documents -/

theorem readDocument_reads {read : Reader α} {value? : Option α}
    {text rest : List Char} (h : Reads read text value? rest)
    (all_blank : ∀ c ∈ rest, c ∈ blanks) :
    (readDocument read text).toOption = value? := by
  have read_eq : (read text).toOption = _ := h
  simp only [readDocument, toOption_bind, read_eq]
  cases value? with
  | none => rfl
  | some value => simp [skipBlanks_all all_blank]

end MeterWatch.Json
