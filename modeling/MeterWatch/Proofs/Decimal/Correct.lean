import MeterWatch.Proofs.Decimal.Shortest

/-!
# Correct rounding

A decimal is rounded to the magnitude nearest to it, and of two that are equally
near to the one with the even rank.  Greater decimals are never rounded to
lesser magnitudes.
-/

namespace MeterWatch

/-! ## Ties -/

theorem divRound_even (num : Nat) {den : Nat} (h : 0 < den)
    (tie : 2 * num = (2 * divRound .toEven num den + 1) * den ∨
      2 * divRound .toEven num den * den = 2 * num + den) :
    divRound .toEven num den % 2 = 0 := by
  have split := Nat.div_add_mod num den
  have below := Nat.mod_lt num h
  have product : num / den * den = den * (num / den) := Nat.mul_comm ..
  simp only [divRound] at tie ⊢
  split
  · rename_i low
    rw [if_pos low] at tie
    rcases tie with above | under <;> grind
  · split
    · rename_i low high
      rw [if_neg low, if_pos high] at tie
      rcases tie with above | under <;> grind
    · omega

namespace Binary64

theorem nearestRank_mod_two (num den : Nat) :
    nearestRank num den % 2 = roundedDigits num den % 2 := by
  rw [nearestRank_eq_digits]
  simp only [binade]
  omega

/-- A quotient halfway to the next magnitude was rounded down to an even one. -/
theorem even_of_tie_above {num den : Nat} (h : 0 < den)
    (tie : 2 * num = (units (nearestRank num den) +
      units (nearestRank num den + 1)) * den) :
    nearestRank num den % 2 = 0 := by
  rw [nearestRank_mod_two]
  rcases Nat.eq_or_lt_of_le (roundedDigits_le num den) with carry | less
  · rw [carry]
    rfl
  · have scale_pos : 0 < den * Nat.pow 2 (excess num den) :=
      Nat.mul_pos h (Nat.pow_pos (by decide))
    have next : units (nearestRank num den + 1) =
        (roundedDigits num den + 1) * Nat.pow 2 (excess num den) := by
      rw [nearestRank_eq_digits, Nat.add_assoc]
      exact units_scale _ less
        ((roundedDigits_leading num den).imp_left Nat.le_succ_of_le)
    refine divRound_even num scale_pos (.inl ?_)
    rw [tie, next, units_nearestRank]
    change _ = (2 * roundedDigits num den + 1) * _
    ring

/-- A quotient halfway to the magnitude before was rounded up to an even one. -/
theorem even_of_tie_below {num den : Nat} (h : 0 < den)
    (positive : nearestRank num den ≠ 0)
    (tie : (units (nearestRank num den - 1) +
      units (nearestRank num den)) * den = 2 * num) :
    nearestRank num den % 2 = 0 := by
  rw [nearestRank_mod_two]
  by_cases lowest : roundedDigits num den = binade
  · rw [lowest]
    rfl
  · have inside : binade < roundedDigits num den ∨ excess num den = 0 := by
      rcases roundedDigits_leading num den with leading | zero
      · exact .inl (by omega)
      · exact .inr zero
    obtain ⟨digits, digits_eq, previous⟩ := exists_previous positive inside
    have scale_pos : 0 < den * Nat.pow 2 (excess num den) :=
      Nat.mul_pos h (Nat.pow_pos (by decide))
    refine divRound_even num scale_pos (.inr ?_)
    rw [← tie, previous, units_nearestRank]
    change 2 * roundedDigits num den * _ = _
    rw [digits_eq]
    ring

/-! ## Nearest magnitudes -/

/-- Rounding to nearest, ties to even. -/
structure IsNearest (value : ℚ) (rank : Nat) : Prop where
  near : ∀ other, |value - magnitude rank| ≤ |value - magnitude other|
  even : ∀ other, other ≠ rank →
    |value - magnitude rank| = |value - magnitude other| → rank % 2 = 0

section Distances

variable {low high : ℚ} (h : low < high) (value : ℚ)

include h

private theorem nearer_high_iff :
    |value - high| ≤ |value - low| ↔ low + high ≤ 2 * value := by
  rw [← sq_le_sq]
  constructor <;> intro le <;> nlinarith

private theorem nearer_low_iff :
    |value - low| ≤ |value - high| ↔ 2 * value ≤ low + high := by
  rw [← sq_le_sq]
  constructor <;> intro le <;> nlinarith

end Distances

section Quotients

variable {num den : Nat} (den_pos : 0 < den) {value : ℚ}
  (stands : value * (den * unitsPerOne) = num)

include den_pos stands

theorem quotient_le_midpoint : 2 * value ≤
    magnitude (nearestRank num den) + magnitude (nearestRank num den + 1) :=
  (quotient_le_midpoint_iff den_pos stands ..).mpr (num_le_midpoint num den_pos)

theorem midpoint_le_quotient (positive : nearestRank num den ≠ 0) :
    magnitude (nearestRank num den - 1) + magnitude (nearestRank num den) ≤
      2 * value :=
  (midpoint_le_quotient_iff den_pos stands ..).mpr
    (midpoint_le_num den_pos positive)

theorem nearestRank_isNearest : IsNearest value (nearestRank num den) := by
  have above := quotient_le_midpoint den_pos stands
  have next {other : Nat} (more : nearestRank num den < other) :
      magnitude (nearestRank num den + 1) ≤ magnitude other :=
    magnitude_strictMono.monotone more
  have previous {other : Nat} (less : other < nearestRank num den) :
      magnitude other ≤ magnitude (nearestRank num den - 1) :=
    magnitude_strictMono.monotone (by omega)
  constructor
  · intro other
    rcases Nat.lt_trichotomy other (nearestRank num den) with
      less | rfl | more
    · have below := midpoint_le_quotient den_pos stands (Nat.ne_zero_of_lt less)
      have step := previous less
      rw [nearer_high_iff (magnitude_strictMono less)]
      linarith
    · exact le_rfl
    · have step := next more
      rw [nearer_low_iff (magnitude_strictMono more)]
      linarith
  · intro other distinct tie
    rcases Nat.lt_or_gt_of_ne distinct with less | more
    · have positive := Nat.ne_zero_of_lt less
      have below := midpoint_le_quotient den_pos stands positive
      have step := previous less
      have far := (nearer_low_iff (magnitude_strictMono less) _).mp tie.ge
      have exact_below : 2 * value ≤
          magnitude (nearestRank num den - 1) +
            magnitude (nearestRank num den) := by linarith
      exact even_of_tie_below den_pos positive (le_antisymm
        (midpoint_le_num den_pos positive)
        ((quotient_le_midpoint_iff den_pos stands ..).mp exact_below))
    · have step := next more
      have far := (nearer_high_iff (magnitude_strictMono more) _).mp tie.ge
      have exact_above : magnitude (nearestRank num den) +
          magnitude (nearestRank num den + 1) ≤ 2 * value := by
        linarith
      exact even_of_tie_above den_pos (le_antisymm
        (num_le_midpoint _ den_pos)
        ((midpoint_le_quotient_iff den_pos stands ..).mp exact_above))

end Quotients

theorem rankOfDecimal_isNearest (decimal : Decimal) :
    IsNearest decimal.value (rankOfDecimal decimal) :=
  nearestRank_isNearest decimal.den_pos (decimal_stands decimal)

/-! ## Order -/

/-- Greater decimals are not rounded to lesser magnitudes. -/
theorem rankOfDecimal_mono {first second : Decimal}
    (h : first.value ≤ second.value) :
    rankOfDecimal first ≤ rankOfDecimal second := by
  by_contra less
  rw [not_le] at less
  have below : magnitude (rankOfDecimal first - 1) +
      magnitude (rankOfDecimal first) ≤ 2 * first.value :=
    midpoint_le_quotient first.den_pos (decimal_stands first)
      (Nat.ne_zero_of_lt less)
  have above : 2 * second.value ≤ magnitude (rankOfDecimal second) +
      magnitude (rankOfDecimal second + 1) :=
    quotient_le_midpoint second.den_pos (decimal_stands second)
  have step : magnitude (rankOfDecimal second) ≤
      magnitude (rankOfDecimal first - 1) :=
    magnitude_strictMono.monotone (by omega)
  have next : magnitude (rankOfDecimal second + 1) ≤
      magnitude (rankOfDecimal first) :=
    magnitude_strictMono.monotone less
  -- Both would lie on the same midpoint, but equal decimals are rounded alike.
  have same : first.value = second.value := by linarith
  rw [rankOfDecimal_congr same] at less
  exact lt_irrefl _ less

/-! ## Shortcuts -/

theorem value_bounds {decimal : Decimal} (h : decimal.digits ≠ 0) :
    (10 : ℚ) ^ decimal.leadingPlace ≤ decimal.value ∧
      decimal.value < 10 ^ (decimal.leadingPlace + 1) := by
  have step_pos : (0 : ℚ) < 10 ^ decimal.exponent :=
    zpow_pos (by norm_num) decimal.exponent
  have first : (10 : ℚ) ^ (digitCount decimal.digits - 1) ≤ decimal.digits := by
    exact_mod_cast pow_digitCount_le h
  have last : (decimal.digits : ℚ) < 10 ^ digitCount decimal.digits := by
    exact_mod_cast lt_pow_digitCount decimal.digits
  have count_pos : 0 < digitCount decimal.digits := Nat.length_toDigits_pos
  have place : decimal.leadingPlace =
      ((digitCount decimal.digits - 1 : ℕ) : Int) + decimal.exponent := by
    unfold Decimal.leadingPlace
    omega
  have next : decimal.leadingPlace + 1 =
      (digitCount decimal.digits : Int) + decimal.exponent := by
    unfold Decimal.leadingPlace
    omega
  rw [next, place, zpow_add₀ (by norm_num), zpow_add₀ (by norm_num),
    zpow_natCast, zpow_natCast, Decimal.value]
  exact ⟨mul_le_mul_of_nonneg_right first step_pos.le,
    mul_lt_mul_of_pos_right last step_pos⟩

theorem value_one (exponent : Int) :
    Decimal.value ⟨1, exponent⟩ = 10 ^ exponent := by
  simp [Decimal.value]

/-- The shortcuts for very small and very great decimals round correctly. -/
theorem ofDecimal_eq_ofRank (negative : Bool) (decimal : Decimal) :
    ofDecimal negative decimal = ofRank negative (rankOfDecimal decimal) := by
  unfold ofDecimal
  split
  · rename_i small
    have rank_eq : rankOfDecimal decimal = 0 := by
      by_cases zero : decimal.digits = 0
      · simp [rankOfDecimal, Decimal.num, zero]
      · have place := small.resolve_left zero
        have least : rankOfDecimal ⟨1, -330⟩ = 0 := by decide +kernel
        have below : decimal.value ≤ Decimal.value ⟨1, -330⟩ := by
          rw [value_one]
          exact (value_bounds zero).2.le.trans
            (zpow_le_zpow_right₀ (by norm_num) (by omega))
        exact Nat.le_zero.mp (least ▸ rankOfDecimal_mono below)
    rw [rank_eq]
    rfl
  · rename_i not_small
    obtain ⟨nonzero, -⟩ := not_or.mp not_small
    split
    · rename_i large
      have greatest : rankLimit ≤ rankOfDecimal ⟨1, 309⟩ := by decide +kernel
      have above : Decimal.value ⟨1, 309⟩ ≤ decimal.value := by
        rw [value_one]
        exact (zpow_le_zpow_right₀ (by norm_num) large).trans
          (value_bounds nonzero).1
      have overflow := greatest.trans (rankOfDecimal_mono above)
      rw [ofRank, dif_neg (not_lt.mpr overflow)]
    · rfl

end Binary64

end MeterWatch
