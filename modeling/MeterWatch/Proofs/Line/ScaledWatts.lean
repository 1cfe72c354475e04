import MeterWatch.Proofs.Decimal.Products
import MeterWatch.Proofs.Line.DemandRecord

/-!
# Scaling the demand

Four numbers are rounded: the divisor, the product of demand and multiplier, the
quotient and the watts.  None of them leaves the range of finite numbers, and
the watts of small products are so near to the exact quotient that they lie on
the same side of each half of a watt.
-/

namespace MeterWatch.Line

open Binary64

/-! ## Finite steps -/

/-- The rank of the watts; the product and the quotient have ranks before. -/
def wattsRank (demand multiplier divisor : Nat) : Nat :=
  productRank
    (quotientRank (productRank (natRank demand) (natRank multiplier))
      (natRank divisor))
    (natRank 1000)

section Steps

variable {demand multiplier divisor : Nat} (hdemand : demand < Nat.pow 2 64)
  (hmultiplier : multiplier < Nat.pow 2 64) (hdivisor : divisor < Nat.pow 2 64)
  (nonzero : divisor ≠ 0)

include hdemand hmultiplier

theorem product_fits :
    FitsIn 1205 (productRank (natRank demand) (natRank multiplier)) :=
  productRank_fits (natRank_fits hdemand) (natRank_fits hmultiplier)
    (by decide) (by decide)

theorem ofNat_mul_ofNat :
    ∃ small, ofNat demand * ofNat multiplier =
      finite false (productRank (natRank demand) (natRank multiplier)) small := by
  have small := (product_fits hdemand hmultiplier).lt_limit (by decide)
  refine ⟨small, ?_⟩
  rw [ofNat_eq hdemand, ofNat_eq hmultiplier, mul_eq_productRank]

include nonzero

theorem quotient_fits :
    FitsIn 1206 (quotientRank
      (productRank (natRank demand) (natRank multiplier)) (natRank divisor)) :=
  quotientRank_fits (product_fits hdemand hmultiplier)
    (unitsPerOne_le_natRank nonzero) (by decide)

theorem wattsRank_fits :
    FitsIn 1272 (wattsRank demand multiplier divisor) :=
  productRank_fits (quotient_fits hdemand hmultiplier nonzero)
    (natRank_fits (by decide)) (by decide) (by decide)

include hdivisor

theorem ofNat_mul_div_ofNat :
    ∃ small, ofNat demand * ofNat multiplier / ofNat divisor =
      finite false (quotientRank
        (productRank (natRank demand) (natRank multiplier))
        (natRank divisor)) small := by
  obtain ⟨product_small, product_eq⟩ := ofNat_mul_ofNat hdemand hmultiplier
  have small :=
    (quotient_fits hdemand hmultiplier nonzero).lt_limit (by decide)
  refine ⟨small, ?_⟩
  rw [product_eq, ofNat_eq hdivisor,
    div_eq_quotientRank _ _ (natRank_ne_zero nonzero)]

theorem scaledWatts_eq :
    ∃ small, scaledWatts demand multiplier divisor =
      finite false (wattsRank demand multiplier divisor) small := by
  obtain ⟨quotient_small, quotient_eq⟩ :=
    ofNat_mul_div_ofNat hdemand hmultiplier hdivisor nonzero
  have small := (wattsRank_fits hdemand hmultiplier nonzero).lt_limit
    (by decide)
  have thousand : (1000 : Nat) < Nat.pow 2 64 := by decide
  refine ⟨small, ?_⟩
  rw [scaledWatts, quotient_eq, ofNat_eq thousand, mul_eq_productRank]
  rfl

end Steps

/-! ## Precision -/

theorem wattsRank_zero (multiplier divisor : Nat) :
    wattsRank 0 multiplier divisor = 0 := by
  simp [wattsRank, productRank, quotientRank, natRank, units_zero]

section Precision

variable {demand multiplier divisor : Nat}

/-- A product of up to 53 bits is not rounded. -/
theorem magnitude_product (demand_pos : 0 < demand)
    (multiplier_pos : 0 < multiplier)
    (small : demand * multiplier ≤ Nat.pow 2 53) :
    magnitude (productRank (natRank demand) (natRank multiplier)) =
      (demand * multiplier : ℕ) := by
  have demand_le : demand ≤ demand * multiplier :=
    Nat.le_mul_of_pos_right demand multiplier_pos
  have multiplier_le : multiplier ≤ demand * multiplier :=
    Nat.le_mul_of_pos_left multiplier demand_pos
  rw [productRank_natRank (isExact_of_le (demand_le.trans small))
    (isExact_of_le (multiplier_le.trans small)),
    magnitude_natRank (isExact_of_le small)]

/-- Each of the three steps that round is off by at most 2^-53. -/
theorem near_of_isRounded {product exact rounded quotient watts : ℚ}
    (exact_pos : 0 < exact) (rounded_pos : 0 < rounded)
    (quotient_nonneg : 0 ≤ quotient) (small : product ≤ 10 ^ 12)
    (first : IsRounded rounded exact)
    (second : IsRounded quotient (product / rounded))
    (third : IsRounded watts (quotient * 1000)) :
    2 * |watts * exact - 1000 * product| < 1 := by
  have first' := isRounded_iff.mp (first.mul_right quotient_nonneg)
  have second' := isRounded_iff.mp (second.mul_right rounded_pos.le)
  have third' := isRounded_iff.mp (third.mul_right exact_pos.le)
  rw [div_mul_cancel₀ _ rounded_pos.ne', mul_comm quotient] at second'
  rw [mul_right_comm, mul_comm quotient] at third'
  simp only [binade] at first' second' third'
  push_cast at first' second' third'
  have apart : |watts * exact - 1000 * product| < 1 / 2 := by
    rw [abs_lt]
    constructor <;> linarith
  linarith

theorem quotient_isNormal {product : Nat} (hdivisor : divisor < Nat.pow 2 64)
    (nonzero : divisor ≠ 0) (one_le : 1 ≤ magnitude product) :
    leastNormal ≤ magnitude product / magnitude (natRank divisor) := by
  have rounded_le := ((natRank_isRounded nonzero).le_two_mul
    (Nat.cast_nonneg divisor)).1
  have divisor_lt : (divisor : ℚ) < 2 ^ 64 := by exact_mod_cast hdivisor
  refine leastNormal_le.trans ?_
  rw [div_le_div_iff₀ (by positivity) (magnitude_pos (natRank_ne_zero nonzero))]
  linarith

/-- The watts are nearer to the exact quotient than any half can be. -/
theorem wattsRank_near (hdivisor : divisor < Nat.pow 2 64)
    (nonzero : divisor ≠ 0) (multiplier_pos : 0 < multiplier)
    (small : demand * multiplier ≤ 10 ^ 12) :
    2 * |magnitude (wattsRank demand multiplier divisor) * divisor -
      (1000 * (demand * multiplier) : ℕ)| < 1 := by
  rcases Nat.eq_zero_or_pos demand with rfl | demand_pos
  · simp [wattsRank_zero, magnitude_zero]
  have product_eq := magnitude_product demand_pos multiplier_pos
    (small.trans (by decide))
  have one_le : (1 : ℚ) ≤ (demand * multiplier : ℕ) :=
    Nat.one_le_cast.mpr (Nat.mul_pos demand_pos multiplier_pos)
  have thousand_eq : magnitude (natRank 1000) = 1000 :=
    magnitude_natRank (isExact_of_le (by decide))
  have divisor_rounded := natRank_isRounded nonzero
  have divisor_pos := magnitude_pos (natRank_ne_zero nonzero)
  have small' : ((demand * multiplier : ℕ) : ℚ) ≤ 10 ^ 12 := by
    exact_mod_cast small
  rw [Nat.cast_mul, Nat.cast_ofNat, wattsRank]
  generalize productRank (natRank demand) (natRank multiplier) = product at *
  generalize ((demand * multiplier : ℕ) : ℚ) = exact at *
  have normal : leastNormal ≤ magnitude product / magnitude (natRank divisor) :=
    quotient_isNormal hdivisor nonzero (by rwa [product_eq])
  have quotient_rounded := quotientRank_isRounded (natRank_ne_zero nonzero)
    normal
  have quotient_nonneg := magnitude_nonneg
    (quotientRank product (natRank divisor))
  have halved := (quotient_rounded.le_two_mul
    (div_nonneg (magnitude_nonneg _) divisor_pos.le)).2
  have watts_rounded := @productRank_isRounded
    (quotientRank product (natRank divisor)) (natRank 1000)
    (normal.trans (by rw [thousand_eq]; linarith))
  rw [thousand_eq] at watts_rounded
  rw [product_eq] at quotient_rounded
  exact near_of_isRounded (Nat.cast_pos.mpr (Nat.pos_of_ne_zero nonzero))
    divisor_pos quotient_nonneg small' divisor_rounded quotient_rounded
    watts_rounded

end Precision

end MeterWatch.Line
