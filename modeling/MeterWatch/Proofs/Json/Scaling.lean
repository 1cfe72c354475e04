import MeterWatch.Proofs.Decimal.Shortest
import MeterWatch.Proofs.Json.Number

/-!
# Scaling without rounding twice

A significand is rounded to a number before it is scaled, and so is the power of
ten.  Where both are numbers already, only the result is rounded, and scaling
gives the number that is nearest to the decimal.
-/

namespace MeterWatch

namespace Binary64

theorem neg_ofRank (negative : Bool) (rank : Nat) :
    -ofRank negative rank = ofRank (!negative) rank := by
  unfold ofRank
  split <;> rfl

theorem ofRatio_true (num den : Nat) :
    ofRatio true num den = -ofRatio false num den := by
  rw [ofRatio, ofUnits, ofRatio, ofUnits, neg_ofRank, Bool.not_false]

theorem lt_of_ofRank_isFinite {negative : Bool} {rank : Nat}
    (h : (ofRank negative rank).isFinite = true) : rank < rankLimit := by
  unfold ofRank at h
  split at h
  · assumption
  · cases h

/-! ## Whole numbers -/

def natRank (n : Nat) : Nat := nearestRank (n * unitsPerOne) 1

theorem natRank_lt {n : Nat} (h : n < Nat.pow 2 64) : natRank n < rankLimit :=
  lt_of_ofRank_isFinite (ofRatio_one_isWithin false h).isFinite

theorem ofNat_eq {n : Nat} (h : n < Nat.pow 2 64) :
    ofNat n = finite false (natRank n) (natRank_lt h) :=
  ofRank_of_lt false (natRank_lt h)

/-- A whole number that needs no more than 53 bits apart from final zeros. -/
def IsExact (n : Nat) : Prop :=
  ∃ digits shift, digits < 2 * binade ∧ n = digits * Nat.pow 2 shift

theorem rankOfDecimal_whole (n : Nat) : rankOfDecimal ⟨n, 0⟩ = natRank n := by
  simp [rankOfDecimal, Decimal.num, Decimal.den, natRank]

theorem exists_units {digits : Nat} (h : digits < 2 * binade) (shift : Nat) :
    ∃ rank, units rank = digits * Nat.pow 2 shift := by
  induction shift generalizing digits with
  | zero => exact ⟨_, units_scale 0 h.le (.inr rfl)⟩
  | succ shift ih =>
      rcases Nat.lt_or_ge digits binade with small | large
      · obtain ⟨rank, units_eq⟩ := ih (Nat.mul_lt_mul_of_pos_left small two_pos)
        refine ⟨rank, ?_⟩
        rw [units_eq, Nat.pow_eq, Nat.pow_eq, pow_succ]
        ring
      · exact ⟨_, units_scale (shift + 1) h.le (.inl large)⟩

theorem units_natRank {n : Nat} (h : IsExact n) :
    units (natRank n) = n * unitsPerOne := by
  obtain ⟨digits, shift, small, rfl⟩ := h
  obtain ⟨bits, bits_eq, -⟩ := exists_unitBits
  obtain ⟨rank, units_eq⟩ := exists_units small (shift + bits)
  have product : digits * Nat.pow 2 shift * unitsPerOne = units rank := by
    rw [units_eq, two_pow_add, bits_eq, Nat.mul_assoc]
  rw [natRank, product, nearestRank_units]

theorem isExact_of_le {n : Nat} (h : n ≤ Nat.pow 2 53) : IsExact n := by
  have bits : Nat.pow 2 53 = 2 * binade := by decide
  rcases Nat.eq_or_lt_of_le h with rfl | less
  · exact ⟨binade, 1, by decide, by decide⟩
  · exact ⟨n, 0, by omega, (Nat.mul_one n).symm⟩

/-- Whole numbers of up to 53 bits are not rounded. -/
theorem exactValue?_ofInt {n : Int} (h : n.natAbs ≤ Nat.pow 2 53) :
    (ofInt n).exactValue? =
      some (WithBot.some (WithTop.some (n * unitsPerOne))) := by
  have small : n.natAbs < Nat.pow 2 64 := Nat.lt_of_le_of_lt h (by decide)
  have rounded : ofInt n =
      finite (n < 0) (natRank n.natAbs) (natRank_lt small) := by
    rw [ofInt, ofRatio, ofUnits, ← natRank, ofRank_of_lt]
  have signed : signedUnits (n < 0) (natRank n.natAbs) = n * unitsPerOne := by
    rw [signedUnits, units_natRank (isExact_of_le h), Nat.cast_mul]
    split
    · rename_i negative
      have size : -(n.natAbs : Int) = n := by
        rw [decide_eq_true_iff] at negative
        omega
      rw [← neg_mul, size]
    · rename_i nonneg
      have size : (n.natAbs : Int) = n := by
        rw [decide_eq_true_iff] at nonneg
        omega
      rw [size]
  rw [rounded, exactValue?, signed]

theorem isExact_power {exponent : Nat} (h : exponent ≤ 22) :
    IsExact (Nat.pow 10 exponent) := by
  refine ⟨Nat.pow 5 exponent, exponent, ?_, ?_⟩
  · calc Nat.pow 5 exponent
      _ ≤ Nat.pow 5 22 := Nat.pow_le_pow_right (by decide) h
      _ < 2 * binade := by decide
  · exact Nat.mul_pow 5 2 exponent

/-! ## Products and quotients -/

theorem mul_eq_ofRank {negative : Bool} {rank rank' : Nat}
    (h : rank < rankLimit) (h' : rank' < rankLimit) :
    finite negative rank h * finite false rank' h' =
      ofRank negative (nearestRank (units rank * units rank') unitsPerOne) := by
  change mul _ _ = _
  simp only [mul, ofUnits, Bool.bne_false]

theorem div_eq_ofRank {negative : Bool} {rank rank' : Nat}
    (h : rank < rankLimit) (h' : rank' < rankLimit) (nonzero : rank' ≠ 0) :
    finite negative rank h / finite false rank' h' =
      ofRank negative (nearestRank (units rank * unitsPerOne) (units rank')) := by
  change div _ _ = _
  simp only [div, if_neg nonzero, ofUnits, Bool.bne_false]

end Binary64

namespace Json

open Binary64

theorem power_eq {exponent : Nat} (h : exponent ≤ 308) :
    power exponent =
      finite false (powerRank exponent) (powerRank_lt h) :=
  ofDecimal_power h

theorem units_powerRank {exponent : Nat} (h : exponent ≤ 22) :
    units (powerRank exponent) = Nat.pow 10 exponent * unitsPerOne :=
  units_natRank (isExact_power h)

theorem powerRank_pos {exponent : Nat} : powerRank exponent ≠ 0 := by
  have least := powerRank_mono (Nat.zero_le exponent)
  rw [powerRank_zero] at least
  simp only [binade] at least
  omega

/-! ## Scaling -/

section Scaled

variable {significand : Nat} (h : significand < significandLimit)

include h

theorem mul_power_zero : ofNat significand * power 0 = ofNat significand := by
  have one : Nat.pow 10 0 * unitsPerOne = unitsPerOne := by simp
  rw [ofNat_eq h, power_eq (by decide), mul_eq_ofRank,
    units_powerRank (by decide), one, nearestRank_mul_self _ unitsPerOne_pos,
    nearestRank_units, ofRank_of_lt]

theorem scaled?_zero : scaled? significand 0 = some (ofNat significand) := by
  have whole_finite : (ofNat significand).isFinite = true := by
    rw [ofNat_eq h]
    rfl
  simp [scaled?, mul_power_zero h, whole_finite]

theorem div_power {exponent : Nat} (exact : IsExact significand)
    (small : exponent ≤ 22) :
    ofNat significand / power exponent =
      ofRank false (rankOfDecimal ⟨significand, -exponent⟩) := by
  have quotient : nearestRank (significand * unitsPerOne * unitsPerOne)
      (Nat.pow 10 exponent * unitsPerOne) =
        rankOfDecimal ⟨significand, -exponent⟩ := by
    rw [Nat.mul_comm _ unitsPerOne, Nat.mul_comm (Nat.pow 10 exponent),
      nearestRank_scale _ _ unitsPerOne_pos]
    simp [rankOfDecimal, Decimal.num, Decimal.den]
  rw [ofNat_eq h, power_eq (by omega), div_eq_ofRank _ _ powerRank_pos,
    units_natRank exact, units_powerRank small, quotient]

theorem mul_power {exponent : Nat} (exact : IsExact significand)
    (small : exponent ≤ 22) :
    ofNat significand * power exponent =
      ofRank false (rankOfDecimal ⟨significand, exponent⟩) := by
  have product : nearestRank (significand * unitsPerOne *
      (Nat.pow 10 exponent * unitsPerOne)) unitsPerOne =
        rankOfDecimal ⟨significand, exponent⟩ := by
    rw [← Nat.mul_assoc, nearestRank_mul_self _ unitsPerOne_pos,
      Nat.mul_right_comm]
    simp [rankOfDecimal, Decimal.num, Decimal.den]
  rw [ofNat_eq h, power_eq (by omega), mul_eq_ofRank, units_natRank exact,
    units_powerRank small, product]

/-- A significand and a power of ten that are numbers already are scaled to
the number that is nearest to their product. -/
theorem scaled?_exact (exact : IsExact significand) {exponent : Int}
    (small : exponent.natAbs ≤ 22)
    (rank_lt : rankOfDecimal ⟨significand, exponent⟩ < rankLimit) :
    scaled? significand exponent = some (finite false _ rank_lt) := by
  rcases lt_or_ge exponent 0 with negative | nonneg
  · have exponent_eq : -(exponent.natAbs : Int) = exponent := by omega
    have within : exponent.natAbs ≤ 308 := by omega
    have quotient := div_power h exact small
    rw [exponent_eq, ofRank_of_lt false rank_lt] at quotient
    rw [scaled?, if_pos negative, scaleDown, if_pos within, quotient]
  · have exponent_eq : (exponent.toNat : Int) = exponent := by omega
    have within : ¬ 308 < exponent := by omega
    have product := mul_power h exact (by omega : exponent.toNat ≤ 22)
    rw [exponent_eq, ofRank_of_lt false rank_lt] at product
    rw [scaled?, if_neg (not_lt.mpr nonneg)]
    by_cases zero : significand = 0
    · subst zero
      simp only [if_true, ofNat_eq h, rankOfDecimal, natRank, Decimal.num,
        Nat.zero_mul, nearestRank_zero]
    · rw [if_neg zero, if_neg within]
      simp only [product]
      rw [if_pos (by simp only [isFinite])]

end Scaled

end Json

end MeterWatch
