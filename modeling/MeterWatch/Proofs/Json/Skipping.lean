import MeterWatch.Proofs.Json.Parts

/-!
# Written values are skipped

Skipping is a machine that keeps a stack of open containers.  However a value
is written and however deep it is nested, the machine gets from its beginning
to its end, with the stack as it was and with no more steps than characters.
-/

namespace MeterWatch.Json

/-! ## Steps -/

def Leads (steps : Nat) (first last : SkipState) : Prop :=
  ∀ fuel, skipWithin (fuel + steps) first = skipWithin fuel last

theorem Leads.refl (state : SkipState) : Leads 0 state state := fun _ => rfl

theorem Leads.trans {steps steps' : Nat} {first middle last : SkipState}
    (h : Leads steps first middle) (h' : Leads steps' middle last) :
    Leads (steps + steps') first last := by
  intro fuel
  rw [Nat.add_comm steps, ← Nat.add_assoc, h, h']

theorem leads_start {stack : List Container} {text : List Char}
    {next : SkipState} (h : skipStart stack text = .ok next) :
    Leads 1 ⟨false, stack, text⟩ next := by
  intro fuel
  simp [skipWithin, h]

theorem leads_end {container : Container} {others : List Container}
    {text : List Char} {next : SkipState}
    (h : skipEnd container others text = .ok next) :
    Leads 1 ⟨true, container :: others, text⟩ next := by
  intro fuel
  simp [skipWithin, h]

/-! ## Blanks -/

section Blanks

variable {c : Char} (h : c ∈ blanks) (text : List Char)

include h

theorem skipWithin_blank (fuel : Nat) (stack : List Container) :
    skipWithin fuel ⟨false, stack, c :: text⟩ =
      skipWithin fuel ⟨false, stack, text⟩ := by
  cases fuel <;> simp [skipWithin, skipStart, skipBlanks_blank h]

theorem skipWithin_blank_inside (fuel : Nat) (container : Container)
    (others : List Container) :
    skipWithin fuel ⟨true, container :: others, c :: text⟩ =
      skipWithin fuel ⟨true, container :: others, text⟩ := by
  cases fuel <;> simp [skipWithin, skipEnd, skipBlanks_blank h]

theorem skipKey_blank : skipKey (c :: text) = skipKey text := by
  simp [skipKey, skipBlanks_blank h]

theorem skipOpening_blank (container : Container) (stack : List Container) :
    skipOpening container stack (c :: text) =
      skipOpening container stack text := by
  simp [skipOpening, skipBlanks_blank h]

end Blanks

theorem skipWithin_skipBlanks (fuel : Nat) (stack : List Container)
    (text : List Char) :
    skipWithin fuel ⟨false, stack, skipBlanks text⟩ =
      skipWithin fuel ⟨false, stack, text⟩ := by
  cases fuel <;> simp [skipWithin, skipStart]

theorem skipKey_skipBlanks (text : List Char) :
    skipKey (skipBlanks text) = skipKey text := by
  simp [skipKey]

/-! ## Places -/

theorem Passed.skipBlanks {place : Place} {text rest : List Char}
    (h : Passed place (skipBlanks text) rest) : Passed place text rest :=
  of_skipBlanks (Passed place · rest)
    (fun _ isBlank _ passed => passed.blank isBlank) h

/-- What a place may go on with behind its blanks. -/
def Place.StartsWith : Place → Char → Prop
  | .value, c | .item .list, c => c ∉ [']', '\x7d', ',']
  | .item .object, c => c = '"'
  | .inside _, _ => True
  | .more container, c => c = ',' ∨ c = container.close

theorem isDigit_startsValue {c : Char} (h : c.isDigit = true) :
    Place.value.StartsWith c := by
  intro member
  simp only [List.mem_cons, List.not_mem_nil, or_false] at member
  rcases member with rfl | rfl | rfl <;> cases h

theorem Passed.starts {place : Place} {text rest : List Char}
    (h : Passed place text rest) :
    ∃ c others, Json.skipBlanks text = c :: others ∧ place.StartsWith c := by
  induction h with
  | blank isBlank _ ih => rwa [skipBlanks_blank isBlank]
  | null | trueWord | falseWord => exact ⟨_, _, rfl, by simp [Place.StartsWith]⟩
  | @number literal rest isNumber =>
      obtain ⟨c, others, literal_eq, first⟩ := isNumber.exists_first
      refine ⟨c, others ++ rest, ?_, ?_⟩
      · rw [skipBlanks_number isNumber, literal_eq, List.cons_append]
      · rcases first with rfl | digit
        · simp [Place.StartsWith]
        · exact isDigit_startsValue digit
  | string | member => exact ⟨_, _, rfl, by simp [Place.StartsWith]⟩
  | @opened container =>
      cases container <;>
        exact ⟨_, _, rfl, by simp [Place.StartsWith, Container.opening]⟩
  | @empty container => cases container <;> exact ⟨_, _, rfl, trivial⟩
  | first _ _ ih =>
      obtain ⟨c, others, text_eq, -⟩ := ih
      exact ⟨c, others, text_eq, trivial⟩
  | @last container => cases container <;> exact ⟨_, _, rfl, .inr rfl⟩
  | next => exact ⟨_, _, rfl, .inl rfl⟩
  | element _ ih => exact ih

theorem Place.StartsWith.ne_close {container : Container} {c : Char}
    (h : (Place.item container).StartsWith c) : c ≠ container.close := by
  cases container with
  | list =>
      rintro rfl
      exact h List.mem_cons_self
  | object =>
      cases h
      decide

theorem Passed.more_ends {container : Container} {text rest : List Char}
    (h : Passed (.more container) text rest) : EndsNumber text := by
  cases h with
  | blank isBlank _ => exact endsNumber_blank isBlank _
  | last => cases container <;> (rintro c ⟨⟩; decide)
  | next => rintro c ⟨⟩; decide

/-! ## Written values -/

/-- What is left of a part when only its places count. -/
def Part.Passes : Part → List Char → List Char → Prop
  | .value _ => Passed .value
  | .elements _ => Passed (.inside .list)
  | .moreElements _ => Passed (.more .list)
  | .members _ => Passed (.inside .object)
  | .moreMembers _ => Passed (.more .object)
  | .member _ _ _ => fun text rest => ∃ middle,
      Passed (.item .object) text middle ∧ Passed (.more .object) middle rest
  | .keyed _ _ => fun text rest => ∃ inner middle,
      Json.skipBlanks text = ':' :: inner ∧ Passed .value inner middle ∧
        Passed (.more .object) middle rest

theorem Part.Passes.blank {part : Part} {c : Char} {text rest : List Char}
    (isBlank : c ∈ blanks) (h : part.Passes text rest) :
    part.Passes (c :: text) rest := by
  cases part with
  | member key value others =>
      obtain ⟨middle, item, more⟩ := h
      exact ⟨middle, .blank isBlank item, more⟩
  | keyed value others =>
      obtain ⟨inner, middle, text_eq, value, more⟩ := h
      exact ⟨inner, middle, (skipBlanks_blank isBlank _).trans text_eq, value,
        more⟩
  | value | elements | moreElements | members | moreMembers =>
      exact Passed.blank isBlank h

theorem Written.passes {part : Part} {text rest : List Char}
    (h : Written part text rest) : part.Passes text rest := by
  induction h with
  | blank isBlank _ ih => exact ih.blank isBlank
  | null => exact .null
  | trueWord => exact .trueWord
  | falseWord => exact .falseWord
  | number isNumber => exact .number isNumber
  | string spelled => exact .string spelled.skimmed
  | list _ ih => exact @Passed.opened .list _ _ ih
  | object _ ih => exact @Passed.opened .object _ _ ih
  | noElements => exact @Passed.empty .list _
  | firstElement _ _ ih ih' => exact .first (.element ih) ih'
  | lastElement => exact @Passed.last .list _
  | nextElement _ _ ih ih' => exact .next (.element ih) ih'
  | noMembers => exact @Passed.empty .object _
  | firstMember _ ih =>
      obtain ⟨middle, item, more⟩ := ih
      exact .first item more
  | lastMember => exact @Passed.last .object _
  | nextMember _ ih =>
      obtain ⟨middle, item, more⟩ := ih
      exact .next item more
  | key spelled _ ih =>
      obtain ⟨inner, middle, colon, value, more⟩ := ih
      exact ⟨middle, .member spelled.skimmed colon value, more⟩
  | colon _ _ ih ih' => exact ⟨_, _, rfl, ih, ih'⟩

/-! ## Items -/

theorem skipToValue_object (text : List Char) :
    skipToValue .object text = skipKey text := rfl

/-- Blanks before an item do not change where the machine goes on. -/
theorem skipToValue_skipBlanks {container : Container}
    {text inner : List Char} (h : skipToValue container text = .ok inner) :
    ∃ inner', skipToValue container (skipBlanks text) = .ok inner' ∧
      ∀ fuel stack, skipWithin fuel ⟨false, stack, inner'⟩ =
        skipWithin fuel ⟨false, stack, inner⟩ := by
  cases container with
  | list =>
      cases h
      exact ⟨_, rfl, fun fuel stack => skipWithin_skipBlanks fuel stack text⟩
  | object =>
      refine ⟨inner, ?_, fun _ _ => rfl⟩
      rw [skipToValue_object, skipKey_skipBlanks]
      exact h

theorem skipToValue_blank {container : Container} {c : Char}
    (isBlank : c ∈ blanks) {text inner : List Char}
    (h : skipToValue container text = .ok inner) :
    ∃ inner', skipToValue container (c :: text) = .ok inner' ∧
      ∀ fuel stack, skipWithin fuel ⟨false, stack, inner'⟩ =
        skipWithin fuel ⟨false, stack, inner⟩ := by
  cases container with
  | list =>
      cases h
      exact ⟨_, rfl, fun fuel stack => skipWithin_blank isBlank text fuel stack⟩
  | object =>
      refine ⟨inner, ?_, fun _ _ => rfl⟩
      rw [skipToValue_object, skipKey_blank isBlank]
      exact h

theorem skipOpening_item {container : Container} {text rest inner : List Char}
    (item : Passed (.item container) text rest)
    (h : skipToValue container (skipBlanks text) = .ok inner)
    (stack : List Container) :
    skipOpening container stack text =
      .ok ⟨false, container :: stack, inner⟩ := by
  obtain ⟨c, others, text_eq, first⟩ := item.starts
  rw [text_eq] at h
  simp [skipOpening, text_eq, first.ne_close, h]

theorem skipEnd_comma {container : Container} {text inner : List Char}
    (h : skipToValue container text = .ok inner) (stack : List Container) :
    skipEnd container stack (',' :: text) =
      .ok ⟨false, container :: stack, inner⟩ := by
  have ended : skipEnd container stack (',' :: text) = (do
    return ⟨false, container :: stack, ← skipToValue container text⟩) := rfl
  rw [ended, h]
  rfl

theorem skipOpening_close (container : Container) (stack : List Container)
    (rest : List Char) :
    skipOpening container stack (container.close :: rest) =
      .ok ⟨true, stack, rest⟩ := by
  cases container <;> rfl

theorem skipEnd_close (container : Container) (stack : List Container)
    (rest : List Char) :
    skipEnd container stack (container.close :: rest) =
      .ok ⟨true, stack, rest⟩ := by
  cases container <;> rfl

theorem skipStart_opening (container : Container) (stack : List Container)
    (text : List Char) :
    skipStart stack (container.opening :: text) =
      skipOpening container stack text := by
  cases container <;> rfl

/-! ## Values that are passed -/

/-- How the machine gets through a place to the end of its container. -/
def Skips : Place → List Char → List Char → Prop
  | .value, text, rest => EndsNumber rest →
      ∃ steps, steps + rest.length ≤ text.length ∧
        ∀ stack, Leads steps ⟨false, stack, text⟩ ⟨true, stack, rest⟩
  | .inside container, text, rest =>
      ∃ steps, steps + rest.length ≤ text.length ∧ ∀ stack, ∃ next,
        skipOpening container stack text = .ok next ∧
          Leads steps next ⟨true, stack, rest⟩
  | .item container, text, rest => EndsNumber rest →
      ∃ steps inner, steps + rest.length ≤ text.length ∧
        skipToValue container text = .ok inner ∧
          ∀ stack, Leads steps ⟨false, stack, inner⟩ ⟨true, stack, rest⟩
  | .more container, text, rest =>
      ∃ steps, steps + rest.length ≤ text.length ∧ ∀ stack,
        Leads steps ⟨true, container :: stack, text⟩ ⟨true, stack, rest⟩

theorem Skips.blank {place : Place} {c : Char} {text rest : List Char}
    (isBlank : c ∈ blanks) (h : Skips place text rest) :
    Skips place (c :: text) rest := by
  cases place with
  | value =>
      intro ends
      obtain ⟨steps, bound, leads⟩ := h ends
      refine ⟨steps, Nat.le_succ_of_le bound, fun stack fuel => ?_⟩
      rw [skipWithin_blank isBlank]
      exact leads stack fuel
  | inside container =>
      obtain ⟨steps, bound, opens⟩ := h
      refine ⟨steps, Nat.le_succ_of_le bound, ?_⟩
      simpa only [skipOpening_blank isBlank] using opens
  | item container =>
      intro ends
      obtain ⟨steps, inner, bound, found, leads⟩ := h ends
      obtain ⟨inner', found', same⟩ := skipToValue_blank isBlank found
      refine ⟨steps, inner', Nat.le_succ_of_le bound, found',
        fun stack fuel => ?_⟩
      rw [same]
      exact leads stack fuel
  | more container =>
      obtain ⟨steps, bound, leads⟩ := h
      refine ⟨steps, Nat.le_succ_of_le bound, fun stack fuel => ?_⟩
      rw [skipWithin_blank_inside isBlank]
      exact leads stack fuel

/-- A value that is taken in one step. -/
theorem skips_scalar {text rest : List Char}
    (shorter : rest.length < text.length)
    (h : EndsNumber rest →
      ∀ stack, skipStart stack text = .ok ⟨true, stack, rest⟩) :
    Skips .value text rest := by
  intro ends
  exact ⟨1, by omega, fun stack => leads_start (h ends stack)⟩

theorem skipStart_digit {c : Char} (h : c.isDigit = true)
    {text rest : List Char} (skipped : skipUnsigned (c :: text) = .ok rest)
    (stack : List Container) :
    skipStart stack (c :: text) = .ok ⟨true, stack, rest⟩ := by
  have here : skipBlanks (c :: text) = c :: text := by
    simp [skipBlanks, isDigit_not_blank h]
  unfold skipStart
  simp only [here]
  split
  case h_9 =>
    simp only [startsWithDigit, h, if_true, skipped]
    rfl
  case h_1 first => cases first
  all_goals
    rename_i first
    cases first
    cases h

theorem skips_number {literal rest : List Char} (h : IsNumber literal) :
    Skips .value (literal ++ rest) rest := by
  obtain ⟨c, others, literal_eq, first⟩ := h.exists_first
  refine skips_scalar ?_ fun ends stack => ?_
  · simp only [literal_eq, List.cons_append, List.length_cons,
      List.length_append]
    omega
  cases h with
  | unsigned unsigned =>
      obtain ⟨c, others, rfl, digit⟩ := unsigned.exists_digit
      exact skipStart_digit digit (skipUnsigned_append unsigned ends) stack
  | @negative digits unsigned =>
      have start : skipStart stack ('-' :: (digits ++ rest)) = (do
        return ⟨true, stack, ← skipUnsigned (digits ++ rest)⟩) := rfl
      rw [List.cons_append, start, skipUnsigned_append unsigned ends]
      rfl

theorem skipKey_skimmed {text gap inner : List Char} (key : Skimmed text gap)
    (colon : skipBlanks gap = ':' :: inner) :
    skipKey ('"' :: text) = .ok inner := by
  have here : skipBlanks ('"' :: text) = '"' :: text := rfl
  simp [skipKey, here, skipString_skimmed key, colon]

theorem length_skipBlanks_le (text : List Char) :
    (skipBlanks text).length ≤ text.length :=
  (List.dropWhile_suffix _).length_le

theorem Passed.skips {place : Place} {text rest : List Char}
    (h : Passed place text rest) : Skips place text rest := by
  induction h with
  | blank isBlank _ ih => exact ih.blank isBlank
  | null | trueWord | falseWord =>
      exact skips_scalar (by simp only [List.length_cons]; omega) fun _ _ => rfl
  | number isNumber => exact skips_number isNumber
  | @string text rest skimmed =>
      refine skips_scalar (Nat.lt_succ_of_lt skimmed.length_lt) fun _ stack => ?_
      have start : skipStart stack ('"' :: text) = (do
        return ⟨true, stack, ← skipString text⟩) := rfl
      rw [start, skipString_skimmed skimmed]
      rfl
  | @opened container text rest _ ih =>
      intro _
      obtain ⟨steps, bound, opens⟩ := ih
      refine ⟨1 + steps, by simp only [List.length_cons]; omega,
        fun stack => ?_⟩
      obtain ⟨next, opened, leads⟩ := opens stack
      have start := (skipStart_opening container stack text).trans opened
      exact (leads_start start).trans leads
  | @empty container rest =>
      exact ⟨0, by simp, fun stack =>
        ⟨_, skipOpening_close container stack rest, .refl _⟩⟩
  | @last container rest =>
      exact ⟨1, by simp only [List.length_cons]; omega, fun stack =>
        leads_end (skipEnd_close container stack rest)⟩
  | first item more ih ih' =>
      obtain ⟨steps, inner, bound, found, leads⟩ := ih more.more_ends
      obtain ⟨steps', bound', leads'⟩ := ih'
      obtain ⟨inner', found', same⟩ := skipToValue_skipBlanks found
      refine ⟨steps + steps', by omega, fun stack =>
        ⟨_, skipOpening_item item found' stack, ?_⟩⟩
      refine Leads.trans (fun fuel => ?_) (leads' stack)
      rw [same]
      exact leads _ fuel
  | next item more ih ih' =>
      obtain ⟨steps, inner, bound, found, leads⟩ := ih more.more_ends
      obtain ⟨steps', bound', leads'⟩ := ih'
      refine ⟨1 + (steps + steps'), by simp only [List.length_cons]; omega,
        fun stack => ?_⟩
      exact (leads_end (skipEnd_comma found stack)).trans
        ((leads _).trans (leads' stack))
  | element _ ih =>
      intro ends
      obtain ⟨steps, bound, leads⟩ := ih ends
      exact ⟨steps, _, bound, rfl, leads⟩
  | @member text gap inner rest key colon _ ih =>
      intro ends
      obtain ⟨steps, bound, leads⟩ := ih ends
      have shorter := key.length_lt
      have shorter' : inner.length < gap.length := by
        have short := length_skipBlanks_le gap
        rw [colon, List.length_cons] at short
        omega
      exact ⟨steps, inner, by simp only [List.length_cons]; omega,
        skipKey_skimmed key colon, leads⟩

theorem skipValue_passed {text rest : List Char}
    (h : Passed .value text rest) (ends : EndsNumber rest) :
    skipValue text = .ok rest := by
  obtain ⟨steps, bound, leads⟩ := h.skips ends
  obtain ⟨fuel, fuel_eq⟩ : ∃ fuel, text.length + 2 = fuel + 1 + steps :=
    ⟨text.length + 1 - steps, by omega⟩
  rw [skipValue, fuel_eq, leads []]
  simp [skipWithin]

theorem skipValue_written {value : Value} {text rest : List Char}
    (h : Written (.value value) text rest) (ends : EndsNumber rest) :
    skipValue text = .ok rest :=
  skipValue_passed h.passes ends

end MeterWatch.Json
