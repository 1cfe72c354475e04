import MeterWatch.Json.Container

/-!
# Outcomes of readers

An outcome is what remains of a result when it does not matter why a text was
refused.  It is put together like the reader itself, step by step.
-/

namespace MeterWatch.Json

variable {α β : Type}

/-! ## Steps -/

@[simp] theorem ok_bind (value : α) (next : α → Except Fault β) :
    (Except.ok value >>= next) = next value := rfl

@[simp] theorem toOption_ok (value : α) :
    (Except.ok value : Except Fault α).toOption = some value := rfl

@[simp] theorem toOption_pure (value : α) :
    (pure value : Except Fault α).toOption = some value := rfl

@[simp] theorem toOption_error (fault : Fault) :
    (Except.error fault : Except Fault α).toOption = none := rfl

@[simp] theorem toOption_faultAt (reason : Reason) (rest : List Char) :
    (faultAt reason rest : Except Fault α).toOption = none := rfl

@[simp] theorem toOption_faultBefore (reason : Reason) (rest : List Char) :
    (faultBefore reason rest : Except Fault α).toOption = none := rfl

@[simp] theorem toOption_bind (outcome : Except Fault α)
    (next : α → Except Fault β) :
    (outcome >>= next).toOption =
      outcome.toOption.bind fun value => (next value).toOption := by
  cases outcome <;> rfl

theorem bind_eq_ok_iff {outcome : Except Fault α} {next : α → Except Fault β}
    {result : β} :
    (outcome >>= next) = .ok result ↔
      ∃ value, outcome = .ok value ∧ next value = .ok result := by
  cases outcome with
  | error fault => simp [bind, Except.bind]
  | ok value => simp

theorem toOption_eq_some_iff {outcome : Except Fault α} {value : α} :
    outcome.toOption = some value ↔ outcome = .ok value := by
  cases outcome <;> simp

theorem toOption_eq_none_iff {outcome : Except Fault α} :
    outcome.toOption = none ↔ ∃ fault, outcome = .error fault := by
  cases outcome <;> simp

@[simp] theorem toOption_wrongType (expected : String) (text : List Char) :
    (wrongType expected text : Except Fault α).toOption = none := by
  unfold wrongType
  split
  case h_8 =>
    split
    · simp
    · simp
  case h_6 | h_7 => simp
  all_goals simp

@[simp] theorem toOption_duplicate (name : String) (text : List Char) :
    (duplicate name text : Except Fault α).toOption = none := by
  unfold duplicate
  split <;> rfl

/-! ## Readers -/

theorem exists_step {size fuel : Nat} (h : size < fuel) :
    ∃ steps, fuel = steps + 1 ∧ size ≤ steps :=
  ⟨fuel - 1, by omega, by omega⟩

/-- The text is read as a value with so much left behind it, or refused. -/
def Reads (read : Reader α) (text : List Char) (value? : Option α)
    (rest : List Char) : Prop :=
  (read text).toOption = value?.map (·, rest)

end MeterWatch.Json
