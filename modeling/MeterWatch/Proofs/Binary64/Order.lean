import MeterWatch.Binary64.Arithmetic
import Mathlib

/-!
# The order of binary64 numbers

Numbers are compared by sign and rank.  Here that comparison is shown to be the
one of exact values: a magnitude has more units exactly if it has a greater
rank, and the infinities lie outside all finite values.
-/

namespace MeterWatch.Binary64

/-! ## Exact values -/

/-- The value counted in units.  NaN has none. -/
def exactValue? : Binary64 → Option (WithBot (WithTop Int))
  | .nan => none
  | .infinite negative => some (if negative then ⊥ else WithBot.some ⊤)
  | .finite negative rank _ =>
      some (WithBot.some (WithTop.some (signedUnits negative rank)))

def AtMost (left right : Binary64) : Prop :=
  ∃ low high, left.exactValue? = some low ∧
    right.exactValue? = some high ∧ low ≤ high

def Below (left right : Binary64) : Prop :=
  ∃ low high, left.exactValue? = some low ∧
    right.exactValue? = some high ∧ low < high

theorem exactValue?_eq_none_iff {number : Binary64} :
    number.exactValue? = none ↔ number = .nan := by
  cases number <;> simp [exactValue?]

theorem exists_exact {number : Binary64} (h : number ≠ .nan) :
    ∃ value, number.exactValue? = some value :=
  Option.ne_none_iff_exists'.mp (mt exactValue?_eq_none_iff.mp h)

theorem AtMost.refl {number : Binary64} (h : number ≠ .nan) :
    number.AtMost number := by
  obtain ⟨value, hvalue⟩ := exists_exact h
  exact ⟨value, value, hvalue, hvalue, le_rfl⟩

theorem AtMost.trans {left middle right : Binary64}
    (first : left.AtMost middle) (second : middle.AtMost right) :
    left.AtMost right := by
  obtain ⟨low, value, hlow, hvalue, hle⟩ := first
  obtain ⟨value', high, hvalue', hhigh, hle'⟩ := second
  cases hvalue.symm.trans hvalue'
  exact ⟨low, high, hlow, hhigh, hle.trans hle'⟩

theorem Below.atMost {left right : Binary64} (h : left.Below right) :
    left.AtMost right := by
  obtain ⟨low, high, hlow, hhigh, hlt⟩ := h
  exact ⟨low, high, hlow, hhigh, hlt.le⟩

theorem atMost_of_not_below {left right : Binary64} (hleft : left ≠ .nan)
    (hright : right ≠ .nan) (h : ¬ right.Below left) : left.AtMost right := by
  obtain ⟨low, hlow⟩ := exists_exact hleft
  obtain ⟨high, hhigh⟩ := exists_exact hright
  refine ⟨low, high, hlow, hhigh, le_of_not_gt fun hlt => ?_⟩
  exact h ⟨high, low, hhigh, hlow, hlt⟩

theorem AtMost.not_below {left right : Binary64} (h : left.AtMost right) :
    ¬ right.Below left := by
  rintro ⟨high', low', hhigh', hlow', hlt⟩
  obtain ⟨low, high, hlow, hhigh, hle⟩ := h
  cases hlow.symm.trans hlow'
  cases hhigh.symm.trans hhigh'
  exact absurd hle (not_le_of_gt hlt)

/-! ## Ranks and units -/

theorem units_lt_units_succ (rank : Nat) : units rank < units (rank + 1) := by
  by_cases sameScale : scale (rank + 1) = scale rank
  · have step : significand rank < significand (rank + 1) := by
      simp only [scale, significand, binade] at sameScale ⊢
      split <;> split <;> omega
    rw [units, units, sameScale]
    exact Nat.mul_lt_mul_of_pos_right step (Nat.pow_pos (by decide))
  · -- The first significand of an exponent follows the last one of the
    -- exponent before, which is less than twice as great.
    have nextScale : scale (rank + 1) = scale rank + 1 := by
      simp only [scale, binade] at sameScale ⊢
      omega
    have step : significand rank < 2 * significand (rank + 1) := by
      simp only [scale, significand, binade] at nextScale ⊢
      split <;> split <;> omega
    have double : Nat.pow 2 (scale rank + 1) = 2 * Nat.pow 2 (scale rank) :=
      Nat.pow_succ'
    rw [units, units, nextScale, double, Nat.mul_left_comm, ← Nat.mul_assoc]
    exact Nat.mul_lt_mul_of_pos_right step (Nat.pow_pos (by decide))

theorem units_strictMono : StrictMono units :=
  strictMono_nat_of_lt_succ units_lt_units_succ

@[simp] theorem units_zero : units 0 = 0 := by
  simp [units, significand]

theorem signedUnits_lt_iff (negative negative' : Bool) (rank rank' : Nat) :
    signedUnits negative rank < signedUnits negative' rank' ↔
      (if negative then -(rank : Int) else rank) <
        if negative' then -(rank' : Int) else rank' := by
  have order := units_strictMono.lt_iff_lt (a := rank) (b := rank')
  have order' := units_strictMono.lt_iff_lt (a := rank') (b := rank)
  have positive := units_strictMono.lt_iff_lt (a := 0) (b := rank)
  have positive' := units_strictMono.lt_iff_lt (a := 0) (b := rank')
  rw [units_zero] at positive positive'
  cases negative <;> cases negative' <;>
    simp only [signedUnits, if_true, Bool.false_eq_true, if_false] <;> omega

/-! ## Comparison -/

theorem below_iff {left right : Binary64} {low high : WithBot (WithTop Int)}
    (hlow : left.exactValue? = some low)
    (hhigh : right.exactValue? = some high) :
    left.Below right ↔ low < high := by
  simp [Below, hlow, hhigh]

theorem isLess_iff {left right : Binary64} {low high : Int}
    (hlow : left.key? = some low) (hhigh : right.key? = some high) :
    left.isLess right = true ↔ low < high := by
  simp [isLess, compare?, hlow, hhigh, compare_lt_iff_lt]

/-- Comparing by sign and rank is comparing exact values. -/
theorem isLess_iff_below (left right : Binary64) :
    left.isLess right = true ↔ left.Below right := by
  cases left with
  | nan => simp [isLess, compare?, key?, Below, exactValue?]
  | infinite negative =>
      cases right with
      | nan => simp [isLess, compare?, key?, Below, exactValue?]
      | infinite negative' =>
          rw [isLess_iff rfl rfl, below_iff rfl rfl]
          cases negative <;> cases negative' <;> decide
      | finite negative' rank' rank_lt' =>
          rw [isLess_iff rfl rfl, below_iff rfl rfl]
          simp only [rankLimit, binade] at rank_lt' ⊢
          cases negative with
          | false =>
              simp only [Bool.false_eq_true, if_false, WithBot.coe_lt_coe,
                not_top_lt, iff_false]
              split <;> omega
          | true =>
              simp only [if_true, WithBot.bot_lt_coe, iff_true]
              split <;> omega
  | finite negative rank rank_lt =>
      cases right with
      | nan => simp [isLess, compare?, key?, Below, exactValue?]
      | infinite negative' =>
          rw [isLess_iff rfl rfl, below_iff rfl rfl]
          simp only [rankLimit, binade] at rank_lt ⊢
          cases negative' with
          | false =>
              simp only [Bool.false_eq_true, if_false, WithBot.coe_lt_coe,
                WithTop.coe_lt_top, iff_true]
              split <;> omega
          | true =>
              simp only [if_true, not_lt_bot, iff_false]
              split <;> omega
      | finite negative' rank' rank_lt' =>
          rw [isLess_iff rfl rfl, below_iff rfl rfl, WithBot.coe_lt_coe,
            WithTop.coe_lt_coe]
          exact (signedUnits_lt_iff negative negative' rank rank').symm

/-! ## Total order -/

/-- Below in value, or -0.0 below 0.0. -/
def TotallyBelow (left right : Binary64) : Prop :=
  left.Below right ∨ left = zero true ∧ right = zero false

def TotallyAtMost (left right : Binary64) : Prop :=
  left = right ∨ left.TotallyBelow right

theorem totalKey_injective : Function.Injective totalKey := by
  intro left right same
  cases left <;> cases right <;> simp only [totalKey, rankLimit] at same <;>
    grind

theorem totalKey_lt_iff {left right : Binary64} (hleft : left ≠ .nan)
    (hright : right ≠ .nan) :
    left.totalKey < right.totalKey ↔ left.TotallyBelow right := by
  rw [TotallyBelow, ← isLess_iff_below]
  cases left with
  | nan => exact absurd rfl hleft
  | infinite negative =>
      cases right with
      | nan => exact absurd rfl hright
      | infinite negative' | finite negative' rank' rank_lt' =>
          rw [isLess_iff rfl rfl]
          simp only [totalKey, zero, reduceCtorEq, false_and, or_false]
          grind
  | finite negative rank rank_lt =>
      cases right with
      | nan => exact absurd rfl hright
      | infinite negative' =>
          rw [isLess_iff rfl rfl]
          simp only [totalKey, zero, reduceCtorEq, and_false, or_false]
          grind
      | finite negative' rank' rank_lt' =>
          rw [isLess_iff rfl rfl]
          simp only [totalKey, zero, finite.injEq]
          grind

theorem totalKey_le_iff {left right : Binary64} (hleft : left ≠ .nan)
    (hright : right ≠ .nan) :
    left.totalKey ≤ right.totalKey ↔ left.TotallyAtMost right := by
  rw [TotallyAtMost, ← totalKey_lt_iff hleft hright, le_iff_eq_or_lt,
    totalKey_injective.eq_iff]

end MeterWatch.Binary64
