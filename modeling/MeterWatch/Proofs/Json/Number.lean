import MeterWatch.Proofs.Binary64.Rounding
import MeterWatch.Proofs.Json.Reading

/-!
# Numbers are finite

A significand has 64 bits and powers of ten are at least one, so only products
can overflow, and those that do are refused.  No number that is read is infinite
or NaN.
-/

namespace MeterWatch.Json

open Binary64

/-! ## Scaling -/

theorem power_reachesOne {exponent : Nat} (h : exponent ≤ 308) :
    (power exponent).ReachesOne :=
  ofDecimal_power_reachesOne h

theorem scaleDown_isFinite {value : Binary64} (within : value.IsWithin 1139)
    (exponent : Nat) : (scaleDown value exponent).isFinite = true := by
  unfold scaleDown
  split
  · exact (div_isWithin (by decide) within (power_reachesOne ‹_›)).isFinite
  · split
    · have first := div_isWithin (by decide) within
        (power_reachesOne (Nat.le_refl 308))
      have second := div_isWithin (by decide) first
        (power_reachesOne (by omega : exponent - 308 ≤ 308))
      exact second.isFinite
    · rfl

theorem scaled?_isFinite {significand : Nat} {exponent : Int}
    {value : Binary64} (h : significand < significandLimit)
    (found : scaled? significand exponent = some value) :
    value.isFinite = true := by
  have whole : (ofNat significand).IsWithin 1139 := ofRatio_one_isWithin false h
  simp only [scaled?] at found
  split at found
  · cases found
    exact scaleDown_isFinite whole _
  · split at found
    · cases found
      exact whole.isFinite
    · split at found
      · cases found
      · split at found
        · cases found
          assumption
        · cases found

theorem isFinite_applySign (negative : Bool) (value : Binary64) :
    (applySign negative value).isFinite = value.isFinite := by
  cases negative
  · rfl
  · exact isFinite_neg value

/-! ## Digits -/

theorem gather_lt {significand : Nat} (h : significand < significandLimit)
    (text : List Char) : (gather significand text).1 < significandLimit := by
  induction text generalizing significand with
  | nil => exact h
  | cons c rest ih =>
      simp only [gather]
      split
      · rename_i taken
        rw [Bool.and_eq_true, decide_eq_true_iff] at taken
        exact ih taken.2
      · exact h

/-! ## Numbers -/

def EnsuresFinite (outcome : Except Fault (Number × List Char)) : Prop :=
  Ensures outcome fun result => result.1.value.isFinite = true

section Parts

variable {negative : Bool} {significand : Nat}
  (h : significand < significandLimit) (exponent : Int) (text : List Char)

include h

theorem finish_isFinite :
    EnsuresFinite (finish negative significand exponent text) := by
  unfold finish
  split
  · rename_i value found
    apply ensures_ok
    exact (isFinite_applySign negative value).trans (scaled?_isFinite h found)
  · exact ensures_error

theorem exponentPart_isFinite :
    EnsuresFinite (exponentPart negative significand exponent text) := by
  simp only [exponentPart]
  split
  · exact ensures_error
  · split
    · exact ensures_error
    · split
      · exact finish_isFinite h _ _
      · split
        · exact ensures_error
        · apply ensures_ok
          exact isFinite_applySign negative (.zero false)

theorem optionalExponent_isFinite :
    EnsuresFinite (optionalExponent negative significand exponent text) := by
  unfold optionalExponent
  split
  · split
    · exact exponentPart_isFinite h _ _
    · exact finish_isFinite h _ _
  · exact finish_isFinite h _ _

theorem fractionPart_isFinite :
    EnsuresFinite (fractionPart negative significand exponent text) := by
  simp only [fractionPart]
  split
  · exact ensures_error
  · split
    · exact ensures_error
    · exact optionalExponent_isFinite (gather_lt h text) _ _

theorem wholeNumber_isFinite :
    (wholeNumber negative significand).value.isFinite = true := by
  have whole (sign : Bool) : (ofRatio sign significand 1).isFinite = true :=
    (ofRatio_one_isWithin sign h).isFinite
  unfold wholeNumber
  split
  · exact whole false
  · split
    · exact (isFinite_neg _).trans (whole false)
    · have size : (-(significand : Int)).natAbs = significand := by omega
      simp only [Number.value, ofInt, size]
      exact whole _

theorem afterWhole_isFinite (dropped : Nat) :
    EnsuresFinite (afterWhole negative significand dropped text) := by
  unfold afterWhole
  split
  · exact fractionPart_isFinite h _ _
  · extract_lets marked
    split
    · exact optionalExponent_isFinite h _ _
    · exact ensures_ok (wholeNumber_isFinite h)

end Parts

theorem unsignedNumber_isFinite (negative : Bool) (text : List Char) :
    EnsuresFinite (unsignedNumber negative text) := by
  have start : 0 < significandLimit := by decide
  unfold unsignedNumber
  split
  · exact ensures_error
  · split
    · exact ensures_error
    · exact afterWhole_isFinite start _ _
  · dsimp only
    split
    · exact afterWhole_isFinite (gather_lt start _) _ _
    · exact ensures_error

theorem readNumber_isFinite :
    Gives readNumber fun number => number.isFinite = true := by
  intro text
  unfold readNumber
  split
  · exact ensures_error
  · exact (unsignedNumber_isFinite true _).bind
      fun ⟨_, _⟩ finite => ensures_ok finite
  · split
    · exact (unsignedNumber_isFinite false _).bind
        fun ⟨_, _⟩ finite => ensures_ok finite
    · exact ensures_wrongType

end MeterWatch.Json
