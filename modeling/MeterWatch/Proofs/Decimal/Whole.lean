import MeterWatch.Binary64.Arithmetic
import MeterWatch.Proofs.Decimal.Correct
import MeterWatch.Proofs.Decimal.Products
import Mathlib.Algebra.Order.Round

/-!
# The nearest whole number

A division is rounded to the whole number within half of the quotient, also
where that is known only roughly.  Whole numbers of up to 53 bits are numbers
themselves, so that they come back from a conversion.
-/

namespace MeterWatch

/-! ## Rounded division -/

section Division

variable {num den whole : Nat}

/-- Halves go up. -/
theorem divRound_away_lt (num : Nat) {den : Nat} (h : 0 < den) :
    2 * num < (2 * divRound .away num den + 1) * den := by
  have split := Nat.div_add_mod num den
  have below := Nat.mod_lt num h
  have product : num / den * den = den * (num / den) := Nat.mul_comm ..
  simp only [divRound]
  split
  · grind
  · split <;> grind

theorem eq_of_overlap (den : Nat) {first second : Nat}
    (low : first * den < (second + 1) * den)
    (high : second * den < (first + 1) * den) : first = second :=
  Nat.le_antisymm
    (Nat.le_of_lt_succ (lt_of_mul_lt_mul_right low (Nat.zero_le den)))
    (Nat.le_of_lt_succ (lt_of_mul_lt_mul_right high (Nat.zero_le den)))

theorem divRound_eq_of_near {tie : Tie} (h : 0 < den)
    (low : 2 * whole * den < 2 * num + den)
    (high : 2 * num < (2 * whole + 1) * den) :
    divRound tie num den = whole := by
  obtain ⟨above, below⟩ := divRound_near tie num h
  exact eq_of_overlap den (by linarith) (by linarith)

theorem divRound_away_eq (h : 0 < den) (low : 2 * whole * den ≤ 2 * num + den)
    (high : 2 * num < (2 * whole + 1) * den) :
    divRound .away num den = whole := by
  have above := divRound_away_lt num h
  have below := (divRound_near .away num h).2
  exact eq_of_overlap den (by linarith) (by linarith)

end Division

/-! ## Nearest whole numbers -/

/-- No whole number is nearer, and any other that is as near is odd. -/
structure IsNearestEven (exact : ℚ) (whole : Nat) : Prop where
  nearest : ∀ other : Int, |exact - whole| ≤ |exact - other|
  even : ∀ other : Int, other ≠ whole →
    |exact - whole| = |exact - other| → whole % 2 = 0

/-- Whole numbers are at least one apart. -/
theorem half_le_of_near {exact : ℚ} {whole : Nat}
    (near : |exact - whole| ≤ 1 / 2) {other : Int} (ne : other ≠ whole) :
    1 / 2 ≤ |exact - other| := by
  have step : (1 : ℚ) ≤ |((whole : Int) - other : Int)| := by
    exact_mod_cast Int.one_le_abs (sub_ne_zero.mpr ne.symm)
  have triangle := abs_sub_le (whole : ℚ) exact other
  rw [abs_sub_comm (whole : ℚ) exact] at triangle
  push_cast at step
  linarith

theorem isNearestEven_of_half {exact : ℚ} {whole : Nat}
    (near : |exact - whole| ≤ 1 / 2)
    (even : |exact - whole| = 1 / 2 → whole % 2 = 0) :
    IsNearestEven exact whole := by
  constructor
  · intro other
    rcases eq_or_ne other whole with rfl | ne
    · exact le_of_eq (by norm_cast)
    · exact near.trans (half_le_of_near near ne)
  · intro other ne tie
    have far := half_le_of_near near ne
    exact even (le_antisymm near (tie ▸ far))

theorem divRound_isNearestEven (num : Nat) {den : Nat} (h : 0 < den) :
    IsNearestEven (num / den) (divRound .toEven num den) := by
  obtain ⟨above, below⟩ := divRound_near .toEven num h
  have even := divRound_even num h
  generalize divRound .toEven num den = whole at *
  have den_pos : (0 : ℚ) < den := Nat.cast_pos.mpr h
  have apart : (num / den - whole : ℚ) * (2 * den) =
      2 * num - 2 * whole * den := by
    field_simp
  have above' : (2 * num : ℚ) ≤ (2 * whole + 1) * den := by exact_mod_cast above
  have below' : (2 * whole * den : ℚ) ≤ 2 * num + den := by exact_mod_cast below
  refine isNearestEven_of_half ?_ fun tie => ?_
  · rw [abs_le]
    constructor <;> nlinarith
  · apply even
    rcases eq_or_eq_neg_of_abs_eq tie with high | low
    · left
      rw [high] at apart
      have exact : (2 * num : ℚ) = (2 * whole + 1) * den := by linarith
      exact_mod_cast exact
    · right
      rw [low] at apart
      have exact : (2 * whole * den : ℚ) = 2 * num + den := by linarith
      exact_mod_cast exact

theorem round_of_near {exact : ℚ} {whole : Nat}
    (near : |exact - whole| < 1 / 2) : round exact = whole := by
  obtain ⟨low, high⟩ := abs_lt.mp near
  rw [round_eq_iff]
  push_cast
  constructor <;> linarith

theorem exists_near {exact : ℚ} (nonneg : 0 ≤ exact)
    (no_tie : ∀ n : Int, exact ≠ n + 1 / 2) :
    ∃ whole : Nat, |exact - whole| < 1 / 2 := by
  have round_nonneg : 0 ≤ round exact := by
    rw [round_eq]
    exact Int.floor_nonneg.mpr (by linarith)
  obtain ⟨whole, whole_eq⟩ := Int.eq_ofNat_of_zero_le round_nonneg
  have near := abs_sub_round exact
  rw [whole_eq, Int.cast_natCast] at near
  refine ⟨whole, near.lt_of_ne fun tie => ?_⟩
  rcases eq_or_eq_neg_of_abs_eq tie with high | low
  · exact no_tie whole (by push_cast; linarith)
  · exact no_tie (whole - 1) (by push_cast; linarith)

/-- What is known up to less than half the last place of a quotient is on the
same side of each half. -/
theorem near_of_scaled {num den whole : Nat} (den_pos : 0 < den)
    (near : |(num / den : ℚ) - whole| < 1 / 2) {approximate : ℚ}
    (close : 2 * |approximate * den - num| < 1) :
    |approximate - whole| < 1 / 2 := by
  have den_pos' : (0 : ℚ) < den := Nat.cast_pos.mpr den_pos
  have quotient : (num / den : ℚ) * den = num := div_mul_cancel₀ _ den_pos'.ne'
  obtain ⟨low, high⟩ := abs_lt.mp near
  have below : 2 * whole * den < 2 * num + den := by
    have scaled := mul_lt_mul_of_pos_right low den_pos'
    rw [sub_mul, quotient] at scaled
    have less : (2 * whole * den : ℚ) < 2 * num + den := by linarith
    exact_mod_cast less
  have above : 2 * num < 2 * whole * den + den := by
    have scaled := mul_lt_mul_of_pos_right high den_pos'
    rw [sub_mul, quotient] at scaled
    have less : (2 * num : ℚ) < 2 * whole * den + den := by linarith
    exact_mod_cast less
  have below' : (2 * whole * den + 1 : ℚ) ≤ 2 * num + den := by
    exact_mod_cast below
  have above' : (2 * num + 1 : ℚ) ≤ 2 * whole * den + den := by
    exact_mod_cast above
  have close' : |approximate * den - num| < 1 / 2 := by linarith
  obtain ⟨low', high'⟩ := abs_lt.mp close'
  rw [abs_lt]
  constructor <;> refine lt_of_mul_lt_mul_right ?_ den_pos'.le <;> linarith

/-! ## Whole numbers -/

namespace Binary64

theorem ofRatio_whole (negative : Bool) {whole : Nat}
    (small : whole < Nat.pow 2 64) :
    ofRatio negative whole 1 =
      finite negative (natRank whole) (natRank_lt small) :=
  ofRank_of_lt negative (natRank_lt small)

theorem toInt64_natRank {whole : Nat} (small : whole ≤ Nat.pow 2 53)
    (h : natRank whole < rankLimit) :
    (finite false (natRank whole) h).toInt64 = whole := by
  have size : Nat.pow 2 53 = 0x20000000000000 := by decide
  have whole_eq : (units (natRank whole) / unitsPerOne : Int) = whole := by
    rw [units_natRank (isExact_of_le small), ← Int.natCast_ediv,
      Nat.mul_div_cancel _ unitsPerOne_pos]
  simp only [toInt64, whole_eq, clamp, int64Limit, Bool.false_eq_true, if_false]
  omega

/-- A multiple of a magnitude is rounded to the whole number within half. -/
theorem divRound_units {tie : Tie} {rank factor whole : Nat}
    (near : |magnitude rank * factor - whole| < 1 / 2) :
    divRound tie (units rank * factor) unitsPerOne = whole := by
  have positive := unitsPerOne_cast_pos
  have units_eq : (units rank * factor : ℚ) =
      magnitude rank * factor * unitsPerOne := by
    rw [mul_right_comm, magnitude, div_mul_cancel₀ _ positive.ne']
  obtain ⟨low, high⟩ := abs_lt.mp near
  have below : (2 * whole * unitsPerOne : ℚ) <
      2 * (units rank * factor) + unitsPerOne := by
    rw [units_eq]
    nlinarith
  have above : (2 * (units rank * factor) : ℚ) <
      (2 * whole + 1) * unitsPerOne := by
    rw [units_eq]
    nlinarith
  exact divRound_eq_of_near unitsPerOne_pos (by exact_mod_cast below)
    (by exact_mod_cast above)

end Binary64

open Binary64 hiding round

/-- Magnitudes are rounded as rational numbers are. -/
theorem round_finite (negative : Bool) {rank whole : Nat} (h : rank < rankLimit)
    (rounded : round (magnitude rank) = whole) :
    (finite negative rank h).round =
      .ofRatio negative whole 1 := by
  obtain ⟨low, high⟩ := round_eq_iff.mp rounded
  have positive := unitsPerOne_cast_pos
  have units_eq : (units rank : ℚ) = magnitude rank * unitsPerOne :=
    (div_mul_cancel₀ _ positive.ne').symm
  push_cast at low high
  have below : (2 * whole * unitsPerOne : ℚ) ≤ 2 * units rank + unitsPerOne := by
    rw [units_eq]
    nlinarith
  have above : (2 * units rank : ℚ) < (2 * whole + 1) * unitsPerOne := by
    rw [units_eq]
    nlinarith
  have whole_eq : divRound .away (units rank) unitsPerOne = whole :=
    divRound_away_eq unitsPerOne_pos (by exact_mod_cast below)
      (by exact_mod_cast above)
  rw [Binary64.round, whole_eq]

end MeterWatch
