import MeterWatch.Decimal.Notation
import MeterWatch.Proofs.Decimal.Whole

/-!
# Tenths from hundredths

The number that is read for a hundredth is scaled to tenths and rounded there.
Both steps are precise enough to keep to one side of each half.  Where the exact
tenths are a half, the scaled number is that half: the error of what is read is
no more than two fifths of its last place, and so no more than half the last
place of the half, which has an even significand.
-/

namespace MeterWatch

namespace Binary64

/-! ## Even significands -/

/-- Between the midpoints of an even rank, these included, a quotient is rounded
to it. -/
theorem nearestRank_eq_of_even {num den rank : Nat} (h : 0 < den)
    (even : rank % 2 = 0)
    (above : rank ≠ 0 → (units (rank - 1) + units rank) * den ≤ 2 * num)
    (below : 2 * num ≤ (units rank + units (rank + 1)) * den) :
    nearestRank num den = rank := by
  have mono {low high : Nat} (le : low ≤ high) : units low ≤ units high :=
    units_strictMono.monotone le
  rcases Nat.lt_trichotomy (nearestRank num den) rank with less | same | more
  · have low := above (Nat.ne_zero_of_lt less)
    have step : units (nearestRank num den) + units (nearestRank num den + 1) ≤
        units (rank - 1) + units rank :=
      Nat.add_le_add (mono (by omega)) (mono less)
    have tie := (num_le_midpoint num h).antisymm
      ((Nat.mul_le_mul_right den step).trans low)
    -- The next even rank is too far away for a tie.
    have even' := even_of_tie_above h tie
    have apart : units (nearestRank num den) + units (nearestRank num den + 1) <
        units (rank - 1) + units rank :=
      Nat.add_lt_add (units_strictMono (by omega)) (units_strictMono (by omega))
    have scaled := Nat.mul_lt_mul_of_pos_right apart h
    omega
  · exact same
  · have positive := Nat.ne_zero_of_lt more
    have step : units rank + units (rank + 1) ≤
        units (nearestRank num den - 1) + units (nearestRank num den) :=
      Nat.add_le_add (mono (by omega)) (mono more)
    have tie := (midpoint_le_num h positive).antisymm
      (below.trans (Nat.mul_le_mul_right den step))
    have even' := even_of_tie_below h positive tie
    have apart : units rank + units (rank + 1) <
        units (nearestRank num den - 1) + units (nearestRank num den) :=
      Nat.add_lt_add (units_strictMono (by omega)) (units_strictMono (by omega))
    have scaled := Nat.mul_lt_mul_of_pos_right apart h
    omega

theorem units_nearestRank_of_even {exponent digits num : Nat}
    (leading : binade < digits) (small : digits ≤ 2 * binade)
    (even : digits % 2 = 0)
    (above : (2 * digits) * Nat.pow 2 exponent ≤ 2 * num + Nat.pow 2 exponent)
    (below : 2 * num ≤ (2 * digits + 1) * Nat.pow 2 exponent) :
    units (nearestRank num 1) = digits * Nat.pow 2 exponent := by
  obtain ⟨previous, rfl⟩ := Nat.exists_eq_add_one_of_ne_zero
    (Nat.ne_zero_of_lt leading)
  have units_eq := units_scale exponent small (.inl leading.le)
  have previous_eq := units_scale exponent (by omega : previous ≤ 2 * binade)
    (.inl (Nat.le_of_lt_succ leading))
  have next := units_scale_succ exponent small (.inl leading.le)
  rw [← units_eq]
  refine congrArg units (nearestRank_eq_of_even Nat.one_pos ?_ (fun _ => ?_) ?_)
  · simp only [binade]
    omega
  · rw [← Nat.add_assoc, Nat.add_sub_cancel, previous_eq, Nat.add_assoc,
      units_eq]
    linarith
  · rw [units_eq]
    linarith

/-! ## Hundredths -/

theorem rankOfDecimal_hundredths (hundredths : Nat) :
    rankOfDecimal ⟨hundredths, -2⟩ =
      nearestRank (hundredths * unitsPerOne) 100 := by
  simp [rankOfDecimal, Decimal.num, Decimal.den]

theorem productRank_ten (rank : Nat) :
    productRank rank (natRank 10) = nearestRank (units rank * 10) 1 := by
  rw [productRank, units_natRank (isExact_of_le (by decide)), ← Nat.mul_assoc,
    nearestRank_mul_self _ unitsPerOne_pos]

section Size

variable {num den exponents : Nat} (den_pos : 0 < den)
  (small : num ≤ den * Nat.pow 2 40) (large : 1062 ≤ exponents)

include den_pos small large

theorem quotient_lt :
    num * unitsPerOne / den < Nat.pow 2 (exponents + 53) := by
  obtain ⟨bits, unit_eq, size⟩ := exists_unitBits
  refine Nat.div_lt_of_lt_mul ?_
  calc num * unitsPerOne
    _ ≤ den * Nat.pow 2 40 * unitsPerOne := Nat.mul_le_mul_right _ small
    _ = den * Nat.pow 2 (40 + bits) := by
      rw [unit_eq, two_pow_add, Nat.mul_assoc]
    _ < den * Nat.pow 2 (exponents + 53) := by
      refine Nat.mul_lt_mul_of_pos_left ?_ den_pos
      exact Nat.pow_lt_pow_right (by decide) (by omega)

theorem nearestRank_fits :
    FitsIn (exponents + 54) (nearestRank (num * unitsPerOne) den) :=
  units_nearestRank_lt (quotient_lt den_pos small large)

end Size

/-- Counted in the last place of what is read for it, a number of twentieths is
a multiple of 1024 / 20, since that place is so small. -/
theorem exists_twentieth_digits {twentieths : Nat} (positive : 0 < twentieths)
    (small : twentieths ≤ 20 * Nat.pow 2 40) :
    ∃ digits exponent whole,
      units (nearestRank (twentieths * unitsPerOne) 20) =
        digits * Nat.pow 2 exponent ∧
      twentieths * unitsPerOne = 1024 * whole * Nat.pow 2 exponent ∧
      binade ≤ digits ∧ digits ≤ 2 * binade ∧
      2048 * whole ≤ 40 * digits + 20 ∧ 40 * digits ≤ 2048 * whole + 20 := by
  have exponent_le := excess_le (quotient_lt (by decide) small le_rfl)
  have units_eq := units_nearestRank (twentieths * unitsPerOne) 20
  have leading := roundedDigits_leading (twentieths * unitsPerOne) 20
  have digits_le := roundedDigits_le (twentieths * unitsPerOne) 20
  have near := divRound_near .toEven (twentieths * unitsPerOne)
    (Nat.mul_pos (by decide) (Nat.pow_pos (by decide)) :
      0 < 20 * Nat.pow 2 (excess (twentieths * unitsPerOne) 20))
  rw [← roundedDigits] at near
  generalize roundedDigits (twentieths * unitsPerOne) 20 = digits at *
  generalize excess (twentieths * unitsPerOne) 20 = exponent at *
  obtain ⟨bits, unit_eq, size⟩ := exists_unitBits
  obtain ⟨places, places_eq⟩ : ∃ places, bits = 10 + (places + exponent) :=
    ⟨bits - 10 - exponent, by omega⟩
  have exact : twentieths * unitsPerOne =
      1024 * (twentieths * Nat.pow 2 places) * Nat.pow 2 exponent := by
    have size : Nat.pow 2 10 = 1024 := by decide
    rw [unit_eq, places_eq, two_pow_add, two_pow_add, size]
    ring
  have scale_pos : 0 < Nat.pow 2 exponent := Nat.pow_pos (by decide)
  rw [exact] at near
  have above : 2048 * (twentieths * Nat.pow 2 places) ≤ 40 * digits + 20 := by
    refine le_of_mul_le_mul_right ?_ scale_pos
    linarith [near.1]
  have below : 40 * digits ≤ 2048 * (twentieths * Nat.pow 2 places) + 20 := by
    refine le_of_mul_le_mul_right ?_ scale_pos
    linarith [near.2]
  refine ⟨digits, exponent, twentieths * Nat.pow 2 places, units_eq, exact, ?_,
    digits_le, above, below⟩
  rcases leading with leading | zero
  · exact leading
  · -- Without an exponent the exact value would be too great for the digits.
    have large : Nat.pow 2 60 ≤ twentieths * Nat.pow 2 places :=
      (Nat.pow_le_pow_right (by decide) (by omega)).trans
        (Nat.le_mul_of_pos_left _ positive)
    have size : Nat.pow 2 60 = 0x1000000000000000 := by decide
    simp only [binade] at digits_le ⊢
    omega

/-- Ten times what is read for a twentieth is a half. -/
theorem productRank_twentieths {twentieths : Nat} (positive : 0 < twentieths)
    (small : twentieths ≤ 20 * Nat.pow 2 40) :
    magnitude (productRank (nearestRank (twentieths * unitsPerOne) 20)
      (natRank 10)) = twentieths / 2 := by
  obtain ⟨digits, exponent, whole, units_eq, exact, low, high, above, below⟩ :=
    exists_twentieth_digits positive small
  have scale_pos : 0 < Nat.pow 2 exponent := Nat.pow_pos (by decide)
  have shifted (shift : Nat) : Nat.pow 2 (exponent + shift) =
      Nat.pow 2 shift * Nat.pow 2 exponent := by
    rw [Nat.add_comm, two_pow_add]
  -- Both are whole numbers, so the distance is not 2.5 but at most 2.
  have low_scaled := Nat.mul_le_mul_right (Nat.pow 2 exponent)
    (by omega : 512 * whole ≤ 10 * digits + 4)
  have high_scaled := Nat.mul_le_mul_right (Nat.pow 2 exponent)
    (by omega : 10 * digits ≤ 512 * whole + 4)
  have units_product : units (nearestRank (digits * Nat.pow 2 exponent * 10) 1) =
      512 * whole * Nat.pow 2 exponent := by
    -- The half has its leading one three or four places further up.
    rcases Nat.lt_or_ge 0x100000000000000 (512 * whole) with more | less
    · have sixteen : Nat.pow 2 4 = 16 := by decide
      have product := @units_nearestRank_of_even (exponent + 4) (32 * whole)
        (digits * Nat.pow 2 exponent * 10)
      simp only [binade] at low high product
      rw [shifted, sixteen] at product
      rw [product (by omega) (by omega) (by omega) (by linarith) (by linarith)]
      ring
    · have eight : Nat.pow 2 3 = 8 := by decide
      have product := @units_nearestRank_of_even (exponent + 3) (64 * whole)
        (digits * Nat.pow 2 exponent * 10)
      simp only [binade] at low high product
      rw [shifted, eight] at product
      rw [product (by omega) (by omega) (by omega) (by linarith) (by linarith)]
      ring
  have twice : 2 * (512 * whole * Nat.pow 2 exponent) =
      twentieths * unitsPerOne := by
    rw [exact]
    ring
  have twice' : (2 * (512 * whole * Nat.pow 2 exponent : ℕ) : ℚ) =
      twentieths * unitsPerOne := by
    exact_mod_cast twice
  rw [productRank_ten, units_eq, magnitude, units_product,
    div_eq_div_iff unitsPerOne_cast_pos.ne' two_ne_zero, mul_comm, twice']

theorem productRank_of_tie {hundredths : Nat}
    (small : hundredths ≤ 100 * Nat.pow 2 40) (tie : hundredths % 10 = 5) :
    magnitude (productRank (rankOfDecimal ⟨hundredths, -2⟩) (natRank 10)) =
      hundredths / 10 := by
  obtain ⟨twentieths, rfl⟩ : ∃ twentieths, hundredths = 5 * twentieths :=
    ⟨hundredths / 5, by omega⟩
  have rank_eq : rankOfDecimal ⟨(5 * twentieths : ℕ), -2⟩ =
      nearestRank (twentieths * unitsPerOne) 20 := by
    rw [rankOfDecimal_hundredths]
    exact nearestRank_congr (by decide) (by decide) (by ring)
  rw [rank_eq, productRank_twentieths (by omega) (by omega)]
  push_cast
  ring

/-- Elsewhere it is enough that both steps are off by less than a tenth. -/
theorem productRank_hundredths_near {hundredths : Nat}
    (small : hundredths ≤ 100 * Nat.pow 2 40) :
    |magnitude (productRank (rankOfDecimal ⟨hundredths, -2⟩) (natRank 10)) -
      hundredths / 10| < 1 / 10 := by
  rcases Nat.eq_zero_or_pos hundredths with rfl | positive
  · simp [rankOfDecimal_hundredths, productRank, units_zero, magnitude_zero]
  have one_le : (1 : ℚ) ≤ hundredths := Nat.one_le_cast.mpr positive
  have small' : (hundredths : ℚ) ≤ 100 * 2 ^ 40 := by exact_mod_cast small
  have ten_eq : magnitude (natRank 10) = 10 :=
    magnitude_natRank (isExact_of_le (by decide))
  have normal : leastNormal ≤ (hundredths : ℚ) / 100 :=
    leastNormal_le.trans (by linarith)
  have first : IsRounded (magnitude (rankOfDecimal ⟨hundredths, -2⟩))
      (hundredths / 100) := by
    rw [rankOfDecimal_hundredths]
    refine nearestRank_isRounded (by decide) ?_ normal
    push_cast
    ring
  generalize rankOfDecimal ⟨hundredths, -2⟩ = rank at *
  have halved := (first.le_two_mul (by linarith)).2
  have second := @productRank_isRounded rank (natRank 10)
    (normal.trans (by rw [ten_eq]; linarith))
  rw [ten_eq] at second
  rw [isRounded_iff] at first second
  simp only [binade] at first second
  push_cast at first second
  rw [abs_lt]
  constructor <;> linarith

end Binary64

/-! ## Rounding to tenths -/

open Binary64 hiding round

theorem round_hundredths (hundredths : Nat) :
    round (hundredths / 10 : ℚ) = ((hundredths + 5) / 10 : ℕ) := by
  have low : 10 * ((hundredths + 5) / 10) ≤ hundredths + 5 := by omega
  have high : hundredths + 5 < 10 * ((hundredths + 5) / 10) + 10 := by omega
  generalize (hundredths + 5) / 10 = tenths at *
  have low' : (10 * tenths : ℚ) ≤ hundredths + 5 := by exact_mod_cast low
  have high' : (hundredths + 5 : ℚ) < 10 * tenths + 10 := by exact_mod_cast high
  rw [round_eq_iff]
  push_cast
  constructor <;> linarith

theorem round_productRank {hundredths : Nat}
    (small : hundredths ≤ 100 * Nat.pow 2 40) :
    round (magnitude
        (productRank (rankOfDecimal ⟨hundredths, -2⟩) (natRank 10))) =
      ((hundredths + 5) / 10 : ℕ) := by
  by_cases tie : hundredths % 10 = 5
  · rw [productRank_of_tie small tie, round_hundredths]
  · have near := productRank_hundredths_near small
    have low : 10 * ((hundredths + 5) / 10) ≤ hundredths + 4 := by omega
    have high : hundredths ≤ 10 * ((hundredths + 5) / 10) + 4 := by omega
    refine round_of_near ?_
    generalize (hundredths + 5) / 10 = tenths at *
    have low' : (10 * tenths : ℚ) ≤ hundredths + 4 := by exact_mod_cast low
    have high' : (hundredths : ℚ) ≤ 10 * tenths + 4 := by exact_mod_cast high
    rw [abs_lt] at near ⊢
    constructor <;> linarith [near.1, near.2]

/-! ## Dividing by ten -/

theorem quotientRank_ten_near {tenths : Nat} (small : tenths ≤ Nat.pow 2 44) :
    |magnitude (quotientRank (natRank tenths) (natRank 10)) * (10 : ℕ) -
      tenths| < 1 / 2 := by
  rcases Nat.eq_zero_or_pos tenths with rfl | positive
  · simp [natRank, quotientRank, units_zero, magnitude_zero]
  have one_le : (1 : ℚ) ≤ tenths := Nat.one_le_cast.mpr positive
  have small' : (tenths : ℚ) ≤ 2 ^ 44 := by exact_mod_cast small
  have tenths_eq : magnitude (natRank tenths) = tenths :=
    magnitude_natRank (isExact_of_le (small.trans (by decide)))
  have ten_eq : magnitude (natRank 10) = (10 : ℕ) :=
    magnitude_natRank (isExact_of_le (by decide))
  have normal : leastNormal ≤ magnitude (natRank tenths) /
      magnitude (natRank 10) := by
    rw [tenths_eq, ten_eq]
    exact leastNormal_le.trans (by push_cast; linarith)
  have rounded := quotientRank_isRounded (natRank_ne_zero (by decide)) normal
  rw [tenths_eq, ten_eq, isRounded_iff] at rounded
  simp only [binade] at rounded
  push_cast at rounded ⊢
  rw [abs_lt]
  constructor <;> linarith

/-! ## Text -/

/-- One place, and a sign also in front of zero. -/
def tenthsText (negative : Bool) (tenths : Nat) : List Char :=
  signText negative ++
    (Nat.toDigits 10 (tenths / 10) ++ '.' :: Nat.toDigits 10 (tenths % 10))

theorem Decimal.positional_tenths (tenths : Nat) :
    Decimal.positional ⟨tenths, -1⟩ = Nat.toDigits 10 (tenths / 10) ++
      '.' :: Nat.toDigits 10 (tenths % 10) := by
  have last : tenths % 10 < 10 := Nat.mod_lt _ (by decide)
  rcases Nat.eq_zero_or_pos (tenths / 10) with zero | positive
  · have single : tenths < 10 := by omega
    rw [zero, Nat.mod_eq_of_lt single]
    simp [Decimal.positional, Decimal.paddedDigits,
      Nat.toDigits_of_lt_base single]
  · have joined := Nat.toDigits_append_toDigits (b := 10) (by decide) positive
      last
    have unpadded : 1 - (Nat.toDigits 10 (tenths / 10)).length = 0 :=
      Nat.sub_eq_zero_of_le Nat.length_toDigits_pos
    rw [Nat.div_add_mod, Nat.toDigits_of_lt_base last] at joined
    rw [Nat.toDigits_of_lt_base last]
    simp [Decimal.positional, Decimal.paddedDigits, ← joined, unpadded]

theorem fixed_one_finite (negative : Bool) {rank : Nat} (h : rank < rankLimit) :
    (finite negative rank h).fixed 1 = String.ofList (tenthsText negative
      (divRound .toEven (units rank * Nat.pow 10 1) unitsPerOne)) := by
  rw [tenthsText, ← Decimal.positional_tenths]
  rfl

theorem fixed_one (negative : Bool) {rank tenths : Nat} (h : rank < rankLimit)
    (near : |magnitude rank * (10 : ℕ) - tenths| < 1 / 2) :
    (finite negative rank h).fixed 1 =
      String.ofList (tenthsText negative tenths) := by
  have digits_eq : divRound .toEven (units rank * Nat.pow 10 1)
      unitsPerOne = tenths := divRound_units near
  rw [fixed_one_finite, digits_eq]

end MeterWatch
