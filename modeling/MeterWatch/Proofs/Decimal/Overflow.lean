import MeterWatch.Proofs.Decimal.Correct
import MeterWatch.Proofs.Decimal.Products

/-!
# Overflow

A result is finite exactly if its exact value lies below the midpoint between
the greatest magnitude and the first that has no number.  The midpoint itself
goes to the latter, whose significand is even.
-/

namespace MeterWatch.Binary64

/-- The least value that is rounded to infinity. -/
def overflowBound : ℚ := 2 ^ 1024 - 2 ^ 970

theorem magnitude_scale {bits : Nat} (unit : unitsPerOne = Nat.pow 2 bits)
    (exponent : Nat) {digits : Nat} (small : digits ≤ 2 * binade)
    (leading : binade ≤ digits) :
    magnitude ((bits + exponent) * binade + digits) = digits * 2 ^ exponent := by
  have unit' : (unitsPerOne : ℚ) = 2 ^ bits := by
    rw [unit, Nat.pow_eq, Nat.cast_pow, Nat.cast_ofNat]
  rw [magnitude, units_scale _ small (.inl leading), Nat.cast_mul, Nat.pow_eq,
    Nat.cast_pow, Nat.cast_ofNat, unit', pow_add, mul_div_assoc,
    mul_div_cancel_left₀ _ (pow_ne_zero bits two_ne_zero)]

/-- The greatest magnitude has 53 bits set. -/
theorem last_midpoint :
    magnitude (rankLimit - 1) + magnitude rankLimit = 2 * overflowBound := by
  obtain ⟨bits, unit, size⟩ := exists_unitBits
  have greatest : magnitude (rankLimit - 1) =
      (2 * binade - 1 : ℕ) * 2 ^ (1 + 970) := by
    have rank_eq : (bits + (1 + 970)) * binade + (2 * binade - 1) =
        rankLimit - 1 := by
      rw [size]
      rfl
    rw [← rank_eq, magnitude_scale unit _ (by decide) (by decide)]
  have first : magnitude rankLimit = (2 * binade : ℕ) * 2 ^ (1 + 970) := by
    have rank_eq : (bits + (1 + 970)) * binade + 2 * binade = rankLimit := by
      rw [size]
      rfl
    rw [← rank_eq, magnitude_scale unit _ le_rfl (by decide)]
  have bound : overflowBound = 2 ^ 54 * 2 ^ 970 - 2 ^ 970 := by
    rw [← pow_add]
    rfl
  rw [greatest, first, bound, pow_add]
  generalize (2 : ℚ) ^ 970 = power
  simp only [binade]
  push_cast
  ring

section Quotients

variable {num den : Nat} (den_pos : 0 < den) {value : ℚ}
  (stands : value * (den * unitsPerOne) = num)

include den_pos stands

theorem nearestRank_lt_limit_iff :
    nearestRank num den < rankLimit ↔ value < overflowBound := by
  have mono {low high : Nat} (le : low ≤ high) :
      magnitude low ≤ magnitude high := magnitude_strictMono.monotone le
  have midpoint := last_midpoint
  constructor
  · intro fits
    have above := quotient_le_midpoint den_pos stands
    have low := mono (by omega : nearestRank num den ≤ rankLimit - 1)
    have high := mono (by omega : nearestRank num den + 1 ≤ rankLimit)
    refine lt_of_le_of_ne (by linarith) fun tie => ?_
    -- Only the midpoint of the greatest rank is that great, but it is odd.
    have rank_eq : nearestRank num den = rankLimit - 1 :=
      magnitude_strictMono.injective (by linarith)
    have exact := (midpoint_le_quotient_iff den_pos stands
      (nearestRank num den) (nearestRank num den + 1)).mp (by linarith)
    have even := even_of_tie_above den_pos
      ((num_le_midpoint num den_pos).antisymm exact)
    rw [rank_eq] at even
    cases even
  · intro small
    by_contra large
    rw [not_lt] at large
    have below := midpoint_le_quotient den_pos stands
      (Nat.ne_zero_of_lt (large.trans_lt' (by decide : 0 < rankLimit)))
    have low := mono (by omega : rankLimit - 1 ≤ nearestRank num den - 1)
    have high := mono large
    linarith

end Quotients

theorem productRank_lt_limit_iff {first second : Nat} :
    productRank first second < rankLimit ↔
      magnitude first * magnitude second < overflowBound :=
  nearestRank_lt_limit_iff unitsPerOne_pos product_stands

theorem quotientRank_lt_limit_iff {first second : Nat} (nonzero : second ≠ 0) :
    quotientRank first second < rankLimit ↔
      magnitude first / magnitude second < overflowBound :=
  nearestRank_lt_limit_iff (units_pos nonzero) (quotient_stands nonzero)

/-! ## Tenths -/

theorem productRank_ten_lt_iff {rank : Nat} :
    productRank rank (natRank 10) < rankLimit ↔
      10 * magnitude rank < overflowBound := by
  rw [productRank_lt_limit_iff, magnitude_natRank (isExact_of_le (by decide)),
    Nat.cast_ofNat, mul_comm]

theorem quotientRank_ten_lt {rank : Nat} (h : rank < rankLimit) :
    quotientRank rank (natRank 10) < rankLimit := by
  rw [quotientRank_lt_limit_iff (natRank_ne_zero (by decide)),
    magnitude_natRank (isExact_of_le (by decide)), Nat.cast_ofNat]
  have below := magnitude_strictMono h
  have nonneg := magnitude_nonneg rank
  have last := magnitude_nonneg (rankLimit - 1)
  have midpoint := last_midpoint
  linarith

end MeterWatch.Binary64
