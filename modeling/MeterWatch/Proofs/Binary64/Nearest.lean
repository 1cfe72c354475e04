import MeterWatch.Proofs.Binary64.Rounding

/-!
# Which magnitude is nearest

A quotient is rounded to a rank whose midpoints with its neighbours enclose it,
so a quotient strictly between the midpoints of a rank is rounded to that rank.
Magnitudes themselves are not changed, and equal quotients are rounded alike.
-/

namespace MeterWatch

theorem divRound_scale (tie : Tie) (num den : Nat) {factor : Nat}
    (h : 0 < factor) :
    divRound tie (factor * num) (factor * den) = divRound tie num den := by
  have less_iff (left right : Nat) :
      factor * left < factor * right ↔ left < right :=
    Nat.mul_lt_mul_left h
  simp only [divRound, Nat.mul_div_mul_left _ _ h, Nat.mul_mod_mul_left,
    Nat.mul_left_comm 2 factor, less_iff]

namespace Binary64

/-! ## Equal quotients -/

theorem nearestRank_scale (num den : Nat) {factor : Nat} (h : 0 < factor) :
    nearestRank (factor * num) (factor * den) = nearestRank num den := by
  have excess_eq : excess (factor * num) (factor * den) = excess num den := by
    rw [excess, excess, Nat.mul_div_mul_left _ _ h]
  rw [nearestRank_eq, nearestRank_eq, excess_eq, Nat.mul_assoc,
    divRound_scale _ _ _ h]

theorem nearestRank_mul_self (num : Nat) {factor : Nat} (h : 0 < factor) :
    nearestRank (num * factor) factor = nearestRank num 1 := by
  have scaled := nearestRank_scale num 1 h
  rwa [Nat.mul_one, Nat.mul_comm] at scaled

theorem nearestRank_congr {num den num' den' : Nat} (h : 0 < den)
    (h' : 0 < den') (same : num * den' = num' * den) :
    nearestRank num den = nearestRank num' den' := by
  rw [← nearestRank_scale num den h', ← nearestRank_scale num' den' h,
    Nat.mul_comm den' num, same, Nat.mul_comm num' den, Nat.mul_comm den' den]

@[simp] theorem nearestRank_zero (den : Nat) : nearestRank 0 den = 0 := by
  simp [nearestRank, divRound]

/-! ## Ranks of magnitudes -/

private theorem two_pow_succ (exponent : Nat) :
    Nat.pow 2 (exponent + 1) = 2 * Nat.pow 2 exponent :=
  Nat.pow_succ'

/-- A magnitude whose significand is known; 2^53 is the first significand of
the next exponent. -/
theorem units_scale (exponent : Nat) {digits : Nat} (h : digits ≤ 2 * binade)
    (leading : binade ≤ digits ∨ exponent = 0) :
    units (exponent * binade + digits) = digits * Nat.pow 2 exponent := by
  rcases Nat.eq_or_lt_of_le h with rfl | less
  · have rank_eq : exponent * binade + 2 * binade = (exponent + 2) * binade :=
      (Nat.add_mul ..).symm
    have quotient : (exponent + 2) * binade / binade = exponent + 2 :=
      Nat.mul_div_cancel _ (by decide)
    have large : ¬ (exponent + 2) * binade < binade := by
      simp only [binade]
      omega
    rw [rank_eq, units, significand, scale, quotient, if_neg large,
      Nat.mul_mod_left, Nat.add_zero, Nat.add_succ_sub_one, two_pow_succ,
      Nat.mul_left_comm, ← Nat.mul_assoc]
  · rcases Nat.lt_or_ge digits binade with small | large
    · have zero : exponent = 0 := by omega
      subst zero
      have first : digits / binade = 0 := Nat.div_eq_of_lt small
      simp [units, significand, scale, small, first]
    · have not_small : ¬ exponent * binade + digits < binade := by omega
      have quotient : (exponent * binade + digits) / binade = exponent + 1 := by
        simp only [binade] at large less ⊢
        omega
      have remainder : binade + (exponent * binade + digits) % binade =
          digits := by
        simp only [binade] at large less ⊢
        omega
      rw [units, significand, scale, quotient, if_neg not_small, remainder,
        Nat.add_sub_cancel]

/-- The next magnitude is at least one unit of the exponent away. -/
theorem units_scale_succ (exponent : Nat) {digits : Nat}
    (h : digits ≤ 2 * binade) (leading : binade ≤ digits ∨ exponent = 0) :
    units (exponent * binade + digits) + Nat.pow 2 exponent ≤
      units (exponent * binade + digits + 1) := by
  rw [units_scale _ h leading, ← Nat.succ_mul]
  rcases Nat.eq_or_lt_of_le h with carry | less
  · have rank_eq : exponent * binade + digits + 1 =
        (exponent + 1) * binade + (binade + 1) := by
      rw [carry]
      ring
    rw [rank_eq, units_scale _ (by decide) (.inl (Nat.le_add_right _ _)),
      two_pow_succ, carry, Nat.mul_left_comm, ← Nat.mul_assoc]
    exact Nat.mul_le_mul_right _ (by omega)
  · rw [Nat.add_assoc, units_scale _ less (leading.imp_left Nat.le_succ_of_le)]

def roundedDigits (num den : Nat) : Nat :=
  divRound .toEven num (den * Nat.pow 2 (excess num den))

theorem nearestRank_eq_digits (num den : Nat) :
    nearestRank num den =
      excess num den * binade + roundedDigits num den := rfl

theorem roundedDigits_le (num den : Nat) :
    roundedDigits num den ≤ 2 * binade := by
  have bound := nearestRank_le_excess num den
  rw [nearestRank_eq_digits, Nat.add_mul] at bound
  omega

theorem roundedDigits_leading (num den : Nat) :
    binade ≤ roundedDigits num den ∨ excess num den = 0 := by
  by_cases zero : excess num den = 0
  · exact .inr zero
  · have bound := excess_le_nearestRank zero
    rw [nearestRank_eq_digits, Nat.add_mul] at bound
    exact .inl (by omega)

theorem units_nearestRank (num den : Nat) :
    units (nearestRank num den) =
      roundedDigits num den * Nat.pow 2 (excess num den) :=
  units_scale _ (roundedDigits_le num den) (roundedDigits_leading num den)

/-! ## Midpoints -/

theorem units_nearestRank_succ (num den : Nat) :
    units (nearestRank num den) + Nat.pow 2 (excess num den) ≤
      units (nearestRank num den + 1) :=
  units_scale_succ _ (roundedDigits_le num den) (roundedDigits_leading num den)

theorem num_le_midpoint (num : Nat) {den : Nat} (h : 0 < den) :
    2 * num ≤
      (units (nearestRank num den) + units (nearestRank num den + 1)) *
        den := by
  have positive : 0 < den * Nat.pow 2 (excess num den) :=
    Nat.mul_pos h (Nat.pow_pos (by decide))
  have near : 2 * num ≤ (2 * roundedDigits num den + 1) *
      (den * Nat.pow 2 (excess num den)) :=
    (divRound_near .toEven num positive).1
  have gap := units_nearestRank_succ num den
  calc 2 * num
    _ ≤ (2 * roundedDigits num den + 1) *
        (den * Nat.pow 2 (excess num den)) := near
    _ = (units (nearestRank num den) + (units (nearestRank num den) +
        Nat.pow 2 (excess num den))) * den := by
      rw [units_nearestRank]
      ring
    _ ≤ _ := Nat.mul_le_mul_right _ (Nat.add_le_add_left gap _)

theorem exists_previous {num den : Nat} (positive : nearestRank num den ≠ 0)
    (inside : binade < roundedDigits num den ∨ excess num den = 0) :
    ∃ digits, roundedDigits num den = digits + 1 ∧
      units (nearestRank num den - 1) =
        digits * Nat.pow 2 (excess num den) := by
  obtain ⟨digits, digits_eq⟩ :
      ∃ digits, roundedDigits num den = digits + 1 := by
    refine Nat.exists_eq_add_one_of_ne_zero fun zero => ?_
    rw [nearestRank_eq_digits, zero] at positive
    have no_excess : excess num den = 0 := by omega
    rw [no_excess, Nat.zero_mul, Nat.add_zero] at positive
    exact positive rfl
  have rank_eq : nearestRank num den - 1 =
      excess num den * binade + digits := by
    rw [nearestRank_eq_digits, digits_eq, ← Nat.add_assoc, Nat.add_sub_cancel]
  have bound := roundedDigits_le num den
  have leading : binade ≤ digits ∨ excess num den = 0 := by omega
  exact ⟨digits, digits_eq, by rw [rank_eq, units_scale _ (by omega) leading]⟩

theorem midpoint_le_num {num den : Nat} (h : 0 < den)
    (positive : nearestRank num den ≠ 0) :
    (units (nearestRank num den - 1) + units (nearestRank num den)) * den ≤
      2 * num := by
  by_cases lowest : roundedDigits num den ≤ binade ∧ excess num den ≠ 0
  · -- Below the least significand of an exponent the gap is only half as wide,
    -- and a quotient is never rounded up to that significand.
    obtain ⟨small, scaled⟩ := lowest
    have digits_eq : roundedDigits num den = binade := by
      have leading := roundedDigits_leading num den
      omega
    have previous : units (nearestRank num den - 1) ≤
        units (nearestRank num den) :=
      units_strictMono.monotone (Nat.sub_le _ 1)
    calc (units (nearestRank num den - 1) + units (nearestRank num den)) * den
      _ ≤ (2 * units (nearestRank num den)) * den :=
        Nat.mul_le_mul_right den (by omega)
      _ = 2 * (binade * Nat.pow 2 (excess num den) * den) := by
        rw [units_nearestRank, digits_eq, Nat.mul_assoc]
      _ ≤ 2 * (num / den * den) :=
        Nat.mul_le_mul_left 2
          (Nat.mul_le_mul_right den (leading_le_quotient scaled))
      _ ≤ 2 * num := Nat.mul_le_mul_left 2 (Nat.div_mul_le_self num den)
  · have inside : binade < roundedDigits num den ∨ excess num den = 0 := by
      omega
    obtain ⟨digits, digits_eq, previous⟩ := exists_previous positive inside
    have scale_pos : 0 < den * Nat.pow 2 (excess num den) :=
      Nat.mul_pos h (Nat.pow_pos (by decide))
    have near : 2 * (digits + 1) * (den * Nat.pow 2 (excess num den)) ≤
        2 * num + den * Nat.pow 2 (excess num den) :=
      digits_eq ▸ (divRound_near .toEven num scale_pos).2
    rw [previous, units_nearestRank, digits_eq]
    refine Nat.le_of_add_le_add_right (Nat.le_trans (Nat.le_of_eq ?_) near)
    ring

/-- A quotient strictly between the midpoints of a rank is rounded to it. -/
theorem nearestRank_eq_of_between {num den rank : Nat} (h : 0 < den)
    (above : rank ≠ 0 → (units (rank - 1) + units rank) * den < 2 * num)
    (below : 2 * num < (units rank + units (rank + 1)) * den) :
    nearestRank num den = rank := by
  have mono {low high : Nat} (le : low ≤ high) : units low ≤ units high :=
    units_strictMono.monotone le
  rcases Nat.lt_trichotomy (nearestRank num den) rank with less | same | more
  · have midpoint := num_le_midpoint num h
    have step : units (nearestRank num den) +
        units (nearestRank num den + 1) ≤ units (rank - 1) + units rank :=
      Nat.add_le_add (mono (by omega)) (mono less)
    have scaled := Nat.mul_le_mul_right den step
    exact absurd (above (by omega)) (by omega)
  · exact same
  · have midpoint := midpoint_le_num h (Nat.ne_zero_of_lt more)
    have step : units rank + units (rank + 1) ≤
        units (nearestRank num den - 1) + units (nearestRank num den) :=
      Nat.add_le_add (mono (by omega)) (mono more)
    have scaled := Nat.mul_le_mul_right den step
    omega

theorem nearestRank_units (rank : Nat) : nearestRank (units rank) 1 = rank := by
  have next := units_lt_units_succ rank
  refine nearestRank_eq_of_between Nat.one_pos (fun positive => ?_) (by omega)
  have previous := units_lt_units_succ (rank - 1)
  rw [Nat.sub_add_cancel (by omega)] at previous
  omega

/-! ## Gaps -/

theorem rank_eq_significand (rank : Nat) :
    scale rank * binade + significand rank = rank := by
  simp only [scale, significand, binade]
  split <;> omega

theorem significand_lt (rank : Nat) : significand rank < 2 * binade := by
  simp only [significand, binade]
  split <;> omega

theorem significand_leading (rank : Nat) :
    binade ≤ significand rank ∨ scale rank = 0 := by
  simp only [significand, scale, binade]
  split <;> omega

/-- Neighbours differ by more than the last of 53 bits. -/
theorem units_gap (rank : Nat) :
    2 * binade * units rank + units (rank + 1) ≤
      2 * binade * units (rank + 1) := by
  have bound := significand_lt rank
  have next : units rank + Nat.pow 2 (scale rank) ≤ units (rank + 1) := by
    have step := units_scale_succ (scale rank) bound.le
      (significand_leading rank)
    rwa [rank_eq_significand] at step
  have bits : 2 * binade * significand rank ≤
      (2 * binade - 1) * (significand rank + 1) := by
    simp only [binade] at bound ⊢
    omega
  have less : 2 * binade * units rank ≤
      (2 * binade - 1) * units (rank + 1) :=
    calc 2 * binade * units rank
      _ = 2 * binade * significand rank * Nat.pow 2 (scale rank) :=
        (Nat.mul_assoc ..).symm
      _ ≤ (2 * binade - 1) * (significand rank + 1) * Nat.pow 2 (scale rank) :=
        Nat.mul_le_mul_right _ bits
      _ = (2 * binade - 1) * (units rank + Nat.pow 2 (scale rank)) := by
        rw [Nat.mul_assoc, Nat.succ_mul (significand rank), units]
      _ ≤ (2 * binade - 1) * units (rank + 1) := Nat.mul_le_mul_left _ next
  simp only [binade] at less ⊢
  omega

end Binary64

end MeterWatch
