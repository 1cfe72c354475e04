import MeterWatch.Proofs.Decimal.Shortest
import Mathlib.Tactic.Linarith
import Mathlib.Tactic.Positivity

/-!
# Precision

A result that is not too small is off by no more than half the last of its 53
bits.  Where errors are multiplied, the coarser bound of the whole last bit
leaves room for the others.
-/

namespace MeterWatch.Binary64

/-! ## Half the last bit -/

/-- Off by no more than half the last of 53 bits. -/
def IsRounded (approximate exact : ℚ) : Prop :=
  2 * binade * |approximate - exact| ≤ exact

theorem IsRounded.mul_right {approximate exact factor : ℚ}
    (rounded : IsRounded approximate exact) (nonneg : 0 ≤ factor) :
    IsRounded (approximate * factor) (exact * factor) := by
  rw [IsRounded, ← sub_mul, abs_mul, abs_of_nonneg nonneg, ← mul_assoc]
  exact mul_le_mul_of_nonneg_right rounded nonneg

theorem isRounded_iff {approximate exact : ℚ} :
    IsRounded approximate exact ↔
      2 * binade * exact ≤ 2 * binade * approximate + exact ∧
        2 * binade * approximate ≤ 2 * binade * exact + exact := by
  have bits_pos : (0 : ℚ) < 2 * (binade : ℕ) := by norm_num
  rw [IsRounded, ← abs_of_pos bits_pos, ← abs_mul, abs_of_pos bits_pos, abs_le]
  constructor
  · rintro ⟨low, high⟩
    constructor <;> linarith
  · rintro ⟨low, high⟩
    constructor <;> linarith

/-- In particular neither is more than twice the other. -/
theorem IsRounded.le_two_mul {approximate exact : ℚ}
    (rounded : IsRounded approximate exact) (nonneg : 0 ≤ exact) :
    approximate ≤ 2 * exact ∧ exact ≤ 2 * approximate := by
  obtain ⟨low, high⟩ := isRounded_iff.mp rounded
  simp only [binade] at low high
  push_cast at low high
  constructor <;> linarith

/-- Where a quotient has all its bits, half the last of them is an upper bound of
the error. -/
theorem units_nearestRank_bounds {num den : Nat} (den_pos : 0 < den)
    (normal : binade * den ≤ num) :
    2 * binade * num ≤ 2 * binade * (units (nearestRank num den) * den) + num ∧
      2 * binade * (units (nearestRank num den) * den) ≤
        2 * binade * num + num := by
  have leading : binade * (den * Nat.pow 2 (excess num den)) ≤ num := by
    by_cases zero : excess num den = 0
    · rw [zero]
      simpa using normal
    · calc binade * (den * Nat.pow 2 (excess num den))
        _ = binade * Nat.pow 2 (excess num den) * den := by ring
        _ ≤ num / den * den :=
          Nat.mul_le_mul_right den (leading_le_quotient zero)
        _ ≤ num := Nat.div_mul_le_self num den
  have scaled_pos : 0 < den * Nat.pow 2 (excess num den) :=
    Nat.mul_pos den_pos (Nat.pow_pos (by decide))
  obtain ⟨above, below⟩ := divRound_near .toEven num scaled_pos
  have units_eq : units (nearestRank num den) * den =
      roundedDigits num den * (den * Nat.pow 2 (excess num den)) := by
    rw [units_nearestRank]
    ring
  change 2 * num ≤ (2 * roundedDigits num den + 1) * _ at above
  change 2 * roundedDigits num den * _ ≤ _ at below
  rw [units_eq]
  constructor <;> nlinarith

/-- The least magnitude whose significand has a leading one. -/
def leastNormal : ℚ := binade / unitsPerOne

theorem leastNormal_le : leastNormal ≤ 1 / 2 ^ 100 := by
  have bits : binade * 2 ^ 100 ≤ unitsPerOne := by decide +kernel
  rw [leastNormal, div_le_div_iff₀ unitsPerOne_cast_pos (by positivity),
    one_mul]
  exact_mod_cast bits

theorem nearestRank_isRounded {num den : Nat} (den_pos : 0 < den) {exact : ℚ}
    (stands : exact * (den * unitsPerOne) = num)
    (normal : leastNormal ≤ exact) :
    IsRounded (magnitude (nearestRank num den)) exact := by
  have den_pos' : (0 : ℚ) < den := Nat.cast_pos.mpr den_pos
  have product_pos : (0 : ℚ) < den * unitsPerOne :=
    mul_pos den_pos' unitsPerOne_cast_pos
  have normal' : binade * den ≤ num := by
    rw [leastNormal, div_le_iff₀ unitsPerOne_cast_pos] at normal
    have scaled := mul_le_mul_of_nonneg_right normal den_pos'.le
    rw [mul_assoc, mul_comm (unitsPerOne : ℚ), stands] at scaled
    exact_mod_cast scaled
  obtain ⟨low, high⟩ := units_nearestRank_bounds den_pos normal'
  have approximate_eq : magnitude (nearestRank num den) * (den * unitsPerOne) =
      units (nearestRank num den) * den := by
    rw [magnitude, mul_comm (den : ℚ), ← mul_assoc,
      div_mul_cancel₀ _ unitsPerOne_cast_pos.ne']
  have low' : (2 * binade * num : ℚ) ≤
      2 * binade * (units (nearestRank num den) * den) + num := by
    exact_mod_cast low
  have high' : (2 * binade * (units (nearestRank num den) * den) : ℚ) ≤
      2 * binade * num + num := by
    exact_mod_cast high
  rw [← stands, ← approximate_eq] at low' high'
  rw [isRounded_iff]
  constructor
  · refine le_of_mul_le_mul_right ?_ product_pos
    linarith
  · refine le_of_mul_le_mul_right ?_ product_pos
    linarith

/-! ## The last bit -/

/-- Off by no more than the last of 53 bits. -/
def IsClose (approximate exact : ℚ) : Prop :=
  binade * |approximate - exact| ≤ exact

theorem isClose_iff {approximate exact : ℚ} :
    IsClose approximate exact ↔
      binade * (exact - approximate) ≤ exact ∧
        binade * (approximate - exact) ≤ exact := by
  have bits_pos : (0 : ℚ) < (binade : ℕ) := by norm_num
  rw [IsClose, ← abs_of_pos bits_pos, ← abs_mul, abs_of_pos bits_pos, abs_le']
  rw [← mul_neg, neg_sub, and_comm]

theorem rankOfDecimal_isClose {decimal : Decimal} (h : 1 ≤ decimal.value) :
    IsClose (magnitude (rankOfDecimal decimal)) decimal.value := by
  have normal : leastNormal ≤ decimal.value :=
    leastNormal_le.trans (le_trans (by norm_num) h)
  have rounded : IsRounded (magnitude (rankOfDecimal decimal))
      decimal.value :=
    nearestRank_isRounded decimal.den_pos (decimal_stands decimal) normal
  rw [isRounded_iff] at rounded
  rw [isClose_iff]
  simp only [binade] at rounded ⊢
  push_cast at rounded ⊢
  constructor <;> linarith

end MeterWatch.Binary64
