import MeterWatch.Proofs.Binary64.Order

/-!
# Rounding keeps order and size

Rounding is monotone and adds at most one bit to a magnitude.  A result whose
exact value is known to be small is therefore finite.
-/

namespace MeterWatch

/-! ## Rounded division -/

theorem div_le_divRound (tie : Tie) (num den : Nat) :
    num / den ≤ divRound tie num den := by
  simp only [divRound]
  split
  · exact Nat.le_refl _
  · split
    · omega
    · cases tie <;> simp only <;> omega

theorem divRound_le_succ (tie : Tie) (num den : Nat) :
    divRound tie num den ≤ num / den + 1 := by
  have parity := Nat.mod_lt (num / den) (by decide : 0 < 2)
  simp only [divRound]
  split
  · omega
  · split
    · omega
    · cases tie <;> simp only <;> omega

theorem divRound_mono (tie : Tie) {num num' : Nat} (den : Nat)
    (h : num ≤ num') : divRound tie num den ≤ divRound tie num' den := by
  rcases Nat.eq_or_lt_of_le (Nat.div_le_div_right h : num / den ≤ num' / den)
    with same | less
  · have remainder : num % den ≤ num' % den := by
      have split_num := Nat.div_add_mod num den
      have split_num' := Nat.div_add_mod num' den
      rw [← same] at split_num'
      omega
    simp only [divRound, ← same]
    cases tie <;> grind
  · exact (divRound_le_succ tie num den).trans
      (Nat.le_trans less (div_le_divRound tie num' den))

namespace Binary64

/-! ## Powers of two -/

theorem two_pow_add (first second : Nat) :
    Nat.pow 2 (first + second) = Nat.pow 2 first * Nat.pow 2 second :=
  Nat.pow_add 2 first second

private theorem two_pow_pos (exponent : Nat) : 0 < Nat.pow 2 exponent :=
  Nat.pow_pos (by decide)

private theorem mul_two_pow_lt {n bits total : Nat} (shift : Nat)
    (h : n < Nat.pow 2 bits) (sum : total = bits + shift) :
    n * Nat.pow 2 shift < Nat.pow 2 total := by
  rw [sum, two_pow_add]
  exact Nat.mul_lt_mul_of_pos_right h (two_pow_pos shift)

/-- The exponent of the unit, which stays a variable so that no power is
computed. -/
theorem exists_unitBits :
    ∃ bits, unitsPerOne = Nat.pow 2 bits ∧ bits = 1074 := by
  unfold unitsPerOne
  exact ⟨_, Eq.refl _, rfl⟩

theorem unitsPerOne_pos : 0 < unitsPerOne := by
  unfold unitsPerOne
  apply two_pow_pos

/-! ## Nearest ranks -/

/-- By how many bits the whole part of a quotient exceeds a significand. -/
def excess (num den : Nat) : Nat := (num / den).log2 - 52

theorem nearestRank_eq (num den : Nat) :
    nearestRank num den = excess num den * binade +
      divRound .toEven num (den * Nat.pow 2 (excess num den)) := rfl

theorem excess_le {num den exponents : Nat}
    (h : num / den < Nat.pow 2 (exponents + 53)) :
    excess num den ≤ exponents := by
  unfold excess
  by_cases zero : num / den = 0
  · simp [zero]
  · have log_lt := (Nat.log2_lt zero).mpr h
    omega

theorem excess_mono {num num' : Nat} (den : Nat) (h : num ≤ num') :
    excess num den ≤ excess num' den := by
  apply excess_le
  calc num / den
    _ ≤ num' / den := Nat.div_le_div_right h
    _ < Nat.pow 2 ((num' / den).log2 + 1) := Nat.lt_log2_self
    _ ≤ Nat.pow 2 (excess num' den + 53) :=
      Nat.pow_le_pow_right (by decide) (by unfold excess; omega)

theorem nearestRank_le_excess (num den : Nat) :
    nearestRank num den ≤ (excess num den + 2) * binade := by
  have above : num / den < Nat.pow 2 53 * Nat.pow 2 (excess num den) :=
    calc num / den
      _ < Nat.pow 2 ((num / den).log2 + 1) := Nat.lt_log2_self
      _ ≤ Nat.pow 2 (53 + excess num den) :=
        Nat.pow_le_pow_right (by decide) (by unfold excess; omega)
      _ = Nat.pow 2 53 * Nat.pow 2 (excess num den) := two_pow_add 53 _
  have quotient_lt : num / (den * Nat.pow 2 (excess num den)) <
      Nat.pow 2 53 := by
    rw [← Nat.div_div_eq_div_mul]
    exact Nat.div_lt_of_lt_mul (Nat.mul_comm .. ▸ above)
  have bits : Nat.pow 2 53 = 2 * binade := by decide
  -- A significand that is rounded up to 2^53 is the only one that carries.
  have rounded := divRound_le_succ .toEven num
    (den * Nat.pow 2 (excess num den))
  rw [nearestRank_eq, Nat.add_mul]
  omega

/-- With bits in excess the significand has its leading one. -/
theorem leading_le_quotient {num den : Nat} (h : excess num den ≠ 0) :
    binade * Nat.pow 2 (excess num den) ≤ num / den := by
  have nonzero : num / den ≠ 0 := by
    intro zero
    simp [excess, zero] at h
  have log_eq : (num / den).log2 = 52 + excess num den := by
    unfold excess at h ⊢
    omega
  calc binade * Nat.pow 2 (excess num den)
    _ = Nat.pow 2 (num / den).log2 := by
      rw [log_eq, two_pow_add]
    _ ≤ num / den := Nat.log2_self_le nonzero

theorem excess_le_nearestRank {num den : Nat} (h : excess num den ≠ 0) :
    (excess num den + 1) * binade ≤ nearestRank num den := by
  have quotient_le : binade ≤ num / (den * Nat.pow 2 (excess num den)) := by
    rw [← Nat.div_div_eq_div_mul]
    exact (Nat.le_div_iff_mul_le (two_pow_pos _)).mpr (leading_le_quotient h)
  have rounded := div_le_divRound .toEven num
    (den * Nat.pow 2 (excess num den))
  rw [nearestRank_eq, Nat.add_mul, Nat.one_mul]
  omega

theorem nearestRank_mono {num num' : Nat} (den : Nat) (h : num ≤ num') :
    nearestRank num den ≤ nearestRank num' den := by
  rcases Nat.eq_or_lt_of_le (excess_mono den h) with same | less
  · rw [nearestRank_eq, nearestRank_eq, same]
    exact Nat.add_le_add_left (divRound_mono .toEven _ h) _
  · calc nearestRank num den
      _ ≤ (excess num den + 2) * binade := nearestRank_le_excess num den
      _ ≤ (excess num' den + 1) * binade :=
        Nat.mul_le_mul_right binade (by omega)
      _ ≤ nearestRank num' den := excess_le_nearestRank (by omega)

/-! ## Finite results -/

/-- Finite, and of fewer units than the power of two. -/
def IsWithin (bits : Nat) (number : Binary64) : Prop :=
  ∃ negative rank rank_lt, number = finite negative rank rank_lt ∧
    units rank < Nat.pow 2 bits

def ReachesOne (number : Binary64) : Prop :=
  ∃ negative rank rank_lt, number = finite negative rank rank_lt ∧
    unitsPerOne ≤ units rank

theorem IsWithin.isFinite {bits : Nat} {number : Binary64}
    (h : number.IsWithin bits) : number.isFinite = true := by
  obtain ⟨_, _, _, rfl, -⟩ := h
  rfl

@[simp] theorem isFinite_neg (number : Binary64) :
    (-number).isFinite = number.isFinite := by
  cases number <;> rfl

theorem units_lt_of_rank_le {rank exponents : Nat}
    (h : rank ≤ (exponents + 1) * binade) :
    units rank < Nat.pow 2 (exponents + 53) := by
  have significand_lt : significand rank < Nat.pow 2 53 := by
    have below := Nat.mod_lt rank (by decide : 0 < binade)
    have bits : Nat.pow 2 53 = 2 * binade := by decide
    rw [bits, significand]
    split <;> omega
  have scale_le : scale rank ≤ exponents := by
    simp only [scale, binade] at h ⊢
    omega
  rw [Nat.add_comm, two_pow_add, units]
  exact Nat.mul_lt_mul_of_lt_of_le significand_lt
    (Nat.pow_le_pow_right (by decide) scale_le) (two_pow_pos exponents)

section Small

variable {num den exponents : Nat} (h : num / den < Nat.pow 2 (exponents + 53))

include h

theorem nearestRank_le_exponents :
    nearestRank num den ≤ (exponents + 2) * binade :=
  (nearestRank_le_excess num den).trans
    (Nat.mul_le_mul_right binade (Nat.add_le_add_right (excess_le h) 2))

theorem nearestRank_lt_limit (small : exponents ≤ 2044) :
    nearestRank num den < rankLimit := by
  have rank_le := nearestRank_le_exponents h
  simp only [rankLimit, binade] at rank_le ⊢
  omega

theorem units_nearestRank_lt :
    units (nearestRank num den) < Nat.pow 2 (exponents + 54) := by
  have bits : exponents + 54 = exponents + 1 + 53 := by omega
  rw [bits]
  exact units_lt_of_rank_le (nearestRank_le_exponents h)

end Small

theorem ofUnits_isWithin (negative : Bool) {num den exponents : Nat}
    (small : exponents ≤ 2044)
    (h : num / den < Nat.pow 2 (exponents + 53)) :
    (ofUnits negative num den).IsWithin (exponents + 54) :=
  ⟨negative, _, nearestRank_lt_limit h small, ofRank_of_lt negative _,
    units_nearestRank_lt h⟩

theorem ofRatio_one_isWithin (negative : Bool) {n : Nat}
    (h : n < Nat.pow 2 64) : (ofRatio negative n 1).IsWithin 1139 := by
  have product : n * unitsPerOne / 1 < Nat.pow 2 (1085 + 53) := by
    rw [Nat.div_one]
    unfold unitsPerOne
    apply mul_two_pow_lt _ h
    rfl
  exact ofUnits_isWithin negative (by decide) product

theorem div_isWithin {left right : Binary64} {exponents : Nat}
    (small : exponents ≤ 2044) (within : left.IsWithin (exponents + 53))
    (divisor : right.ReachesOne) :
    (left / right).IsWithin (exponents + 54) := by
  obtain ⟨negative, rank, rank_lt, rfl, units_lt⟩ := within
  obtain ⟨negative', rank', rank_lt', rfl, units_ge⟩ := divisor
  have nonzero : rank' ≠ 0 := by
    rintro rfl
    rw [units_zero] at units_ge
    exact absurd unitsPerOne_pos (Nat.not_lt.mpr units_ge)
  have quotient_lt : units rank * unitsPerOne / units rank' <
      Nat.pow 2 (exponents + 53) := by
    refine Nat.lt_of_le_of_lt ?_ units_lt
    calc units rank * unitsPerOne / units rank'
      _ ≤ units rank * unitsPerOne / unitsPerOne :=
        Nat.div_le_div_left units_ge unitsPerOne_pos
      _ = units rank := Nat.mul_div_cancel _ unitsPerOne_pos
  change (div _ _).IsWithin _
  simp only [div, if_neg nonzero]
  exact ofUnits_isWithin _ small quotient_lt

/-! ## Powers of ten -/

def powerRank (exponent : Nat) : Nat :=
  nearestRank (Nat.pow 10 exponent * unitsPerOne) 1

theorem powerRank_mono {exponent exponent' : Nat} (h : exponent ≤ exponent') :
    powerRank exponent ≤ powerRank exponent' :=
  nearestRank_mono 1
    (Nat.mul_le_mul_right _ (Nat.pow_le_pow_right (by decide) h))

theorem powerRank_zero : powerRank 0 = 1023 * binade := by decide +kernel

theorem powerRank_lt {exponent : Nat} (h : exponent ≤ 308) :
    powerRank exponent < rankLimit :=
  (powerRank_mono h).trans_lt (by decide +kernel)

theorem unitsPerOne_eq : unitsPerOne = units (1023 * binade) := by
  decide +kernel

theorem ofDecimal_power {exponent : Nat} (h : exponent ≤ 308) :
    ofDecimal false ⟨1, exponent⟩ =
      finite false (powerRank exponent) (powerRank_lt h) := by
  have place : (Decimal.mk 1 exponent).leadingPlace = exponent := by
    have count : digitCount 1 = 1 := by decide
    simp only [Decimal.leadingPlace, count]
    omega
  have rank_eq : rankOfDecimal ⟨1, exponent⟩ = powerRank exponent := by
    have size : (-(exponent : Int)).toNat = 0 := by omega
    simp [rankOfDecimal, powerRank, Decimal.num, Decimal.den, size]
  have not_low : ¬ ((1 : Nat) = 0 ∨ (exponent : Int) < -330) := by omega
  have not_high : ¬ 309 ≤ (exponent : Int) := by omega
  simp only [ofDecimal, place, if_neg not_low, if_neg not_high, rank_eq,
    ofRank_of_lt false (powerRank_lt h)]

theorem ofDecimal_power_reachesOne {exponent : Nat} (h : exponent ≤ 308) :
    (ofDecimal false ⟨1, exponent⟩).ReachesOne := by
  refine ⟨false, _, powerRank_lt h, ofDecimal_power h, ?_⟩
  rw [unitsPerOne_eq, ← powerRank_zero]
  exact units_strictMono.monotone (powerRank_mono (Nat.zero_le exponent))

end Binary64

end MeterWatch
