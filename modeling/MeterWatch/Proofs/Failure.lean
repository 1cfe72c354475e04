import MeterWatch.Failure
import Mathlib.Data.List.DropRight

/-!
# Messages of failures

A failure that says something is shown with its message, whose final periods
are replaced by a single one.  Any other failure has the same short message.
-/

namespace MeterWatch

/-! ## Final characters -/

theorem Text.toList_trimEnd (drop : Char → Bool) (text : String) :
    (Text.trimEnd drop text).toList = text.toList.rdropWhile drop := by
  simp [Text.trimEnd, List.rdropWhile]

/-- A text without its final periods, of which there were so many. -/
def IsWithoutPeriods (cause text : String) (count : Nat) : Prop :=
  text = cause ++ String.ofList (List.replicate count '.') ∧
    cause.toList.getLast? ≠ some '.'

theorem trimEnd_isWithoutPeriods (text : String) :
    ∃ count, IsWithoutPeriods (Text.trimEnd (· == '.') text) text count := by
  let periods := text.toList.rtakeWhile (· == '.')
  have all_periods : periods = List.replicate periods.length '.' :=
    List.eq_replicate_iff.mpr
      ⟨rfl, fun _ member => by simpa using List.mem_rtakeWhile_imp member⟩
  refine ⟨periods.length, ?_, ?_⟩
  · rw [← all_periods, ← String.toList_inj, String.toList_append,
      Text.toList_trimEnd, String.toList_ofList]
    exact List.rdropWhile_append_rtakeWhile.symm
  · rw [Text.toList_trimEnd]
    intro last
    have nonempty : text.toList.rdropWhile (· == '.') ≠ [] := by
      intro empty
      simp [empty] at last
    have last_not := List.rdropWhile_last_not (· == '.') text.toList nonempty
    rw [List.getLast?_eq_some_getLast nonempty, Option.some.injEq] at last
    exact last_not (beq_iff_eq.mpr last)

/-! ## Causes -/

namespace FetchFailure

def IsSilent (failure : FetchFailure) : Prop :=
  failure = .unknown ∨ failure = .network ""

theorem cause?_of_silent {failure : FetchFailure} (silent : failure.IsSilent) :
    failure.cause? = none := by
  rcases silent with rfl | rfl <;> rfl

theorem cause?_of_not_silent {failure : FetchFailure}
    (speaks : ¬ failure.IsSilent) : failure.cause? = some failure.message := by
  cases failure with
  | unknown => exact absurd (.inl rfl) speaks
  | network text =>
      have nonempty : ¬ text.isEmpty = true := fun empty =>
        speaks (.inr (congrArg network (String.isEmpty_iff.mp empty)))
      rw [cause?.eq_def, message.eq_def]
      exact if_neg nonempty
  | status code => rw [cause?.eq_def]
  | malformed reason => rw [cause?.eq_def]
  | invalidDelay delay => rw [cause?.eq_def]

end FetchFailure

/-! ## Messages of a pause -/

def silentPauseMessage : String :=
  "Request failed.  Updates paused, reload to resume."

theorem pauseMessage_of_silent {failure : FetchFailure}
    (silent : failure.IsSilent) :
    pauseMessage failure.cause? = silentPauseMessage := by
  rw [FetchFailure.cause?_of_silent silent]
  rfl

theorem pauseMessage_of_not_silent {failure : FetchFailure}
    (speaks : ¬ failure.IsSilent) :
    ∃ cause count, IsWithoutPeriods cause failure.message count ∧
      pauseMessage failure.cause? =
        "Request failed: " ++ cause ++
          ".  Updates paused, reload to resume." := by
  obtain ⟨count, without⟩ := trimEnd_isWithoutPeriods failure.message
  have joined : "." ++ "  Updates paused, reload to resume." =
      ".  Updates paused, reload to resume." := by decide
  refine ⟨_, count, without, ?_⟩
  rw [FetchFailure.cause?_of_not_silent speaks]
  exact String.append_assoc.trans (congrArg _ joined)

/-- The short message is the only one without a colon in its place. -/
theorem pauseMessage_eq_silent_iff (failure : FetchFailure) :
    pauseMessage failure.cause? = silentPauseMessage ↔ failure.IsSilent := by
  refine ⟨fun same => ?_, pauseMessage_of_silent⟩
  by_contra speaks
  obtain ⟨cause, count, -, message_eq⟩ := pauseMessage_of_not_silent speaks
  rw [message_eq, silentPauseMessage, ← String.toList_inj] at same
  simp at same

end MeterWatch
