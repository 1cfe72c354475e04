import MeterWatch.Proofs.Decimal.Precision
import MeterWatch.Proofs.Json.Scaling

/-!
# Products and quotients of magnitudes

A product or quotient that is not too small is off by no more than half the
last of its 53 bits.  Bounds on the operands bound the result, so that a row of
operations can be followed without overflow.
-/

namespace MeterWatch.Binary64

/-! ## Products and quotients -/

def productRank (first second : Nat) : Nat :=
  nearestRank (units first * units second) unitsPerOne

def quotientRank (first second : Nat) : Nat :=
  nearestRank (units first * unitsPerOne) (units second)

section Operations

variable {first second : Nat}

theorem units_pos (nonzero : second ≠ 0) : 0 < units second := by
  rw [← units_zero]
  exact units_strictMono (Nat.pos_of_ne_zero nonzero)

theorem product_stands : magnitude first * magnitude second *
    (unitsPerOne * unitsPerOne) = (units first * units second : ℕ) := by
  have positive := unitsPerOne_cast_pos
  rw [magnitude, magnitude, Nat.cast_mul]
  field_simp

theorem quotient_stands (nonzero : second ≠ 0) :
    magnitude first / magnitude second * (units second * unitsPerOne) =
      (units first * unitsPerOne : ℕ) := by
  have positive := unitsPerOne_cast_pos
  have second_pos : (0 : ℚ) < units second :=
    Nat.cast_pos.mpr (units_pos nonzero)
  rw [magnitude, magnitude, Nat.cast_mul]
  field_simp

theorem productRank_isRounded
    (normal : leastNormal ≤ magnitude first * magnitude second) :
    IsRounded (magnitude (productRank first second))
      (magnitude first * magnitude second) :=
  nearestRank_isRounded unitsPerOne_pos product_stands normal

theorem quotientRank_isRounded (nonzero : second ≠ 0)
    (normal : leastNormal ≤ magnitude first / magnitude second) :
    IsRounded (magnitude (quotientRank first second))
      (magnitude first / magnitude second) :=
  nearestRank_isRounded (units_pos nonzero) (quotient_stands nonzero) normal

theorem mul_eq_productRank {negative : Bool} (h : first < rankLimit)
    (h' : second < rankLimit) (small : productRank first second < rankLimit) :
    finite negative first h * finite false second h' =
      finite negative (productRank first second) small := by
  rw [mul_eq_ofRank, ← ofRank_of_lt negative small, productRank]

theorem div_eq_quotientRank {negative : Bool} (h : first < rankLimit)
    (h' : second < rankLimit) (nonzero : second ≠ 0)
    (small : quotientRank first second < rankLimit) :
    finite negative first h / finite false second h' =
      finite negative (quotientRank first second) small := by
  rw [div_eq_ofRank _ _ nonzero, ← ofRank_of_lt negative small, quotientRank]

end Operations

/-! ## Finite results -/

/-- A magnitude of fewer units than the power of two. -/
def FitsIn (bits rank : Nat) : Prop := units rank < Nat.pow 2 bits

theorem FitsIn.lt_limit {bits rank : Nat} (h : FitsIn bits rank)
    (small : bits ≤ 2098) : rank < rankLimit := by
  obtain ⟨exponent, exponent_eq⟩ : ∃ exponent, exponent = 2046 := ⟨_, rfl⟩
  have limit_eq : rankLimit = exponent * binade + binade := by
    rw [exponent_eq]
    decide
  have bits_eq : binade = Nat.pow 2 52 := by decide
  rw [← units_strictMono.lt_iff_lt, limit_eq,
    units_scale exponent (by decide) (.inl le_rfl)]
  calc units rank
    _ < Nat.pow 2 bits := h
    _ ≤ Nat.pow 2 (52 + exponent) :=
      Nat.pow_le_pow_right (by decide) (by omega)
    _ = binade * Nat.pow 2 exponent := by rw [two_pow_add, bits_eq]

section Fits

variable {first second bits bits' result : Nat} (h : FitsIn bits first)

include h

theorem productRank_fits (h' : FitsIn bits' second)
    (sum : bits + bits' ≤ result + 1073) (large : 54 ≤ result) :
    FitsIn result (productRank first second) := by
  obtain ⟨exponents, rfl⟩ := Nat.exists_eq_add_of_le' large
  obtain ⟨unitBits, unit_eq, size⟩ := exists_unitBits
  refine units_nearestRank_lt ?_
  rw [Nat.div_lt_iff_lt_mul unitsPerOne_pos, unit_eq, ← two_pow_add]
  calc units first * units second
    _ < Nat.pow 2 bits * Nat.pow 2 bits' := Nat.mul_lt_mul_of_lt_of_lt h h'
    _ = Nat.pow 2 (bits + bits') := (two_pow_add ..).symm
    _ ≤ Nat.pow 2 (exponents + 53 + unitBits) :=
      Nat.pow_le_pow_right (by decide) (by omega)

theorem quotientRank_fits (divisor : unitsPerOne ≤ units second)
    (large : 53 ≤ bits) : FitsIn (bits + 1) (quotientRank first second) := by
  obtain ⟨exponents, rfl⟩ := Nat.exists_eq_add_of_le' large
  refine units_nearestRank_lt (Nat.lt_of_le_of_lt ?_ h)
  calc units first * unitsPerOne / units second
    _ ≤ units first * unitsPerOne / unitsPerOne :=
      Nat.div_le_div_left divisor unitsPerOne_pos
    _ = units first := Nat.mul_div_cancel _ unitsPerOne_pos

end Fits

/-! ## Whole numbers -/

theorem natRank_fits {n : Nat} (h : n < Nat.pow 2 64) :
    FitsIn 1139 (natRank n) := by
  obtain ⟨_, _, _, same, less⟩ := ofRatio_one_isWithin false h
  change ofNat n = _ at same
  rw [ofNat_eq h] at same
  cases same
  exact less

theorem unitsPerOne_le_natRank {n : Nat} (h : n ≠ 0) :
    unitsPerOne ≤ units (natRank n) := by
  have one_le : natRank 1 ≤ natRank n :=
    nearestRank_mono 1 (Nat.mul_le_mul_right _ (Nat.pos_of_ne_zero h))
  calc unitsPerOne
    _ = units (natRank 1) := by
      rw [units_natRank (isExact_of_le (by decide)), Nat.one_mul]
    _ ≤ units (natRank n) := units_strictMono.monotone one_le

theorem natRank_ne_zero {n : Nat} (h : n ≠ 0) : natRank n ≠ 0 := by
  intro zero
  have least := unitsPerOne_le_natRank h
  rw [zero, units_zero] at least
  exact absurd unitsPerOne_pos (Nat.not_lt.mpr least)

theorem magnitude_natRank {n : Nat} (h : IsExact n) :
    magnitude (natRank n) = n := by
  rw [magnitude, units_natRank h, Nat.cast_mul,
    mul_div_cancel_right₀ _ unitsPerOne_cast_pos.ne']

theorem productRank_natRank {first second : Nat} (h : IsExact first)
    (h' : IsExact second) :
    productRank (natRank first) (natRank second) = natRank (first * second) := by
  rw [productRank, units_natRank h, units_natRank h', ← Nat.mul_assoc,
    nearestRank_mul_self _ unitsPerOne_pos, Nat.mul_right_comm, natRank]

theorem natRank_isRounded {n : Nat} (h : n ≠ 0) :
    IsRounded (magnitude (natRank n)) n := by
  have one_le : (1 : ℚ) ≤ n := Nat.one_le_cast.mpr (Nat.pos_of_ne_zero h)
  have normal : leastNormal ≤ n :=
    leastNormal_le.trans (le_trans (by norm_num) one_le)
  refine nearestRank_isRounded Nat.one_pos ?_ normal
  rw [Nat.cast_one, one_mul, Nat.cast_mul]

end MeterWatch.Binary64
