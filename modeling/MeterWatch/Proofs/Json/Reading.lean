import MeterWatch.Json.Container

/-!
# What readers return

A condition that holds of every value of a reader carries over from elements to
lists, from members to objects, and from a value to the document around it.
-/

namespace MeterWatch.Json

variable {α β σ : Type}

/-! ## Outcomes -/

def Ensures (outcome : Except Fault α) (condition : α → Prop) : Prop :=
  ∀ value, outcome = .ok value → condition value

/-- Whatever the text, the value read from it satisfies a condition. -/
def Gives (read : Reader α) (condition : α → Prop) : Prop :=
  ∀ text, Ensures (read text) fun result => condition result.1

theorem ensures_ok {value : α} {condition : α → Prop} (h : condition value) :
    Ensures (.ok value) condition := by
  rintro _ ⟨⟩
  exact h

theorem ensures_error {fault : Fault} {condition : α → Prop} :
    Ensures (.error fault) condition := by
  rintro _ ⟨⟩

theorem Ensures.bind {outcome : Except Fault α} {next : α → Except Fault β}
    {first : α → Prop} {condition : β → Prop} (h : Ensures outcome first)
    (hnext : ∀ value, first value → Ensures (next value) condition) :
    Ensures (outcome >>= next) condition := by
  cases outcome with
  | error fault => exact ensures_error
  | ok value => exact hnext value (h value rfl)

theorem ensures_bind {outcome : Except Fault α} {next : α → Except Fault β}
    {condition : β → Prop} (h : ∀ value, Ensures (next value) condition) :
    Ensures (outcome >>= next) condition :=
  Ensures.bind (fun _ _ => trivial) (fun value (_ : True) => h value)

theorem ensures_wrongType {expected : String} {text : List Char}
    {condition : α → Prop} : Ensures (wrongType expected text) condition := by
  unfold wrongType
  split
  case h_8 =>
    split
    · exact ensures_bind fun _ => ensures_error
    · exact ensures_error
  case h_6 | h_7 => exact ensures_error
  all_goals exact ensures_bind fun _ => ensures_error

theorem ensures_duplicate {name : String} {text : List Char}
    {condition : α → Prop} : Ensures (duplicate name text) condition := by
  unfold duplicate
  split <;> exact ensures_error

/-! ## Elements -/

section Elements

variable {read : Reader α} {condition : α → Prop}

theorem elementsWithin_gives (h : Gives read condition) (fuel : Nat)
    (first : Bool) :
    Gives (elementsWithin read fuel first) fun values =>
      ∀ value ∈ values, condition value := by
  intro text
  induction fuel generalizing first text with
  | zero => exact ensures_error
  | succ fuel ih =>
      refine ensures_bind fun next => ?_
      cases next with
      | none => exact ensures_bind fun _ => ensures_ok (by simp)
      | some element =>
          refine (h element).bind fun ⟨value, rest⟩ good => ?_
          refine (ih false rest).bind fun ⟨values, rest⟩ all_good => ?_
          exact ensures_ok (List.forall_mem_cons.mpr ⟨good, all_good⟩)

theorem readList_gives (h : Gives read condition) :
    Gives (readList read) fun values => ∀ value ∈ values, condition value := by
  intro text
  exact ensures_bind fun elements => elementsWithin_gives h _ true elements

theorem elementAt_gives (h : Gives read condition) (expected : String)
    (index : Nat) : Gives (elementAt expected index read) condition := by
  intro text
  refine ensures_bind fun next => ?_
  cases next with
  | none => exact ensures_bind fun _ => ensures_error
  | some element => exact h element

theorem readOptional_gives (h : Gives read condition) :
    Gives (readOptional read) fun value? =>
      ∀ value ∈ value?, condition value := by
  intro text
  unfold readOptional
  split
  · exact ensures_bind fun _ => ensures_ok (by simp)
  · refine (h _).bind fun ⟨value, rest⟩ good => ensures_ok ?_
    rintro _ ⟨⟩
    exact good

theorem readDocument_ensures (h : Gives read condition) (text : List Char) :
    Ensures (readDocument read text) condition := by
  refine (h text).bind fun ⟨value, rest⟩ good => ?_
  dsimp only
  split
  · exact ensures_ok good
  · exact ensures_error

end Elements

/-! ## Members -/

theorem membersWithin_gives {member : σ → List Char → Reader σ}
    {invariant : σ → Prop}
    (keeps : ∀ fields key, invariant fields →
      Gives (member fields key) invariant)
    (fuel : Nat) (first : Bool) {fields : σ} (start : invariant fields) :
    Gives (membersWithin member fuel first fields) invariant := by
  intro text
  induction fuel generalizing first fields text with
  | zero => exact ensures_error
  | succ fuel ih =>
      refine ensures_bind fun next => ?_
      cases next with
      | none => exact ensures_bind fun _ => ensures_ok start
      | some keyed =>
          obtain ⟨key, rest⟩ := keyed
          refine (keeps fields key start rest).bind
            fun ⟨changed, rest⟩ kept => ?_
          exact ih false kept rest

theorem readMembers_gives {member : σ → List Char → Reader σ}
    {invariant : σ → Prop}
    (keeps : ∀ fields key, invariant fields →
      Gives (member fields key) invariant)
    {fields : σ} (start : invariant fields) :
    Gives (readMembers member fields) invariant :=
  fun text => membersWithin_gives keeps _ true start text

end MeterWatch.Json
