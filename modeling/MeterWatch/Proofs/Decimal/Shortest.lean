import MeterWatch.Decimal.Shortest
import MeterWatch.Proofs.Binary64.Nearest

/-!
# Shortest decimals read back

The shortest decimal of a magnitude is rounded to that magnitude, and it has at
most seventeen digits: on a grid that fine, the nearer neighbour is closer than
any midpoint.
-/

namespace MeterWatch

/-! ## Values -/

theorem ten_zpow_eq_div (exponent : Int) :
    (10 : ℚ) ^ exponent =
      (Nat.pow 10 exponent.toNat : ℕ) / (Nat.pow 10 (-exponent).toNat : ℕ) := by
  obtain ⟨size, rfl | rfl⟩ := exponent.eq_nat_or_neg
  · simp
  · simp

namespace Decimal

def value (decimal : Decimal) : ℚ := decimal.digits * 10 ^ decimal.exponent

theorem value_eq_div (decimal : Decimal) :
    decimal.value = decimal.num / decimal.den := by
  rw [value, ten_zpow_eq_div, num, den, Nat.cast_mul, mul_div_assoc]

end Decimal

namespace Binary64

def magnitude (rank : Nat) : ℚ := units rank / unitsPerOne

theorem unitsPerOne_cast_pos : (0 : ℚ) < unitsPerOne :=
  Nat.cast_pos.mpr unitsPerOne_pos

theorem magnitude_strictMono : StrictMono magnitude := fun _ _ h =>
  div_lt_div_of_pos_right (Nat.cast_lt.mpr (units_strictMono h))
    unitsPerOne_cast_pos

theorem magnitude_zero : magnitude 0 = 0 := by
  rw [magnitude, units_zero, Nat.cast_zero, zero_div]

theorem magnitude_nonneg (rank : Nat) : 0 ≤ magnitude rank :=
  div_nonneg (Nat.cast_nonneg _) unitsPerOne_cast_pos.le

theorem magnitude_pos {rank : Nat} (h : rank ≠ 0) : 0 < magnitude rank := by
  rw [← magnitude_zero]
  exact magnitude_strictMono (Nat.pos_of_ne_zero h)

theorem magnitude_gap (rank : Nat) :
    magnitude (rank + 1) <
      10 ^ 16 * (magnitude (rank + 1) - magnitude rank) := by
  have bits : (2 * binade * units rank + units (rank + 1) : ℚ) ≤
      2 * binade * units (rank + 1) := by
    exact_mod_cast units_gap rank
  have scaled := div_le_div_of_nonneg_right bits unitsPerOne_cast_pos.le
  rw [add_div, mul_div_assoc, mul_div_assoc] at scaled
  have step := magnitude_strictMono (Nat.lt_succ_self rank)
  change 2 * binade * magnitude rank + magnitude (rank + 1) ≤
    2 * binade * magnitude (rank + 1) at scaled
  simp only [binade] at scaled
  push_cast at scaled
  linarith

section Midpoints

private theorem magnitude_add (first second : Nat) :
    magnitude first + magnitude second =
      ((units first + units second : ℕ) : ℚ) / unitsPerOne := by
  rw [magnitude, magnitude, ← add_div, Nat.cast_add]

variable {num den : Nat} (den_pos : 0 < den) {value : ℚ}
  (stands : value * (den * unitsPerOne) = num) (first second : Nat)

include den_pos stands

private theorem two_mul_quotient : 2 * value =
    (2 * num : ℕ) / (den * unitsPerOne : ℕ) := by
  have product_pos : (0 : ℚ) < den * unitsPerOne :=
    mul_pos (Nat.cast_pos.mpr den_pos) unitsPerOne_cast_pos
  rw [Nat.cast_mul den, eq_div_iff product_pos.ne', mul_assoc, stands,
    Nat.cast_mul, Nat.cast_ofNat]

theorem midpoint_le_quotient_iff :
    magnitude first + magnitude second ≤ 2 * value ↔
      (units first + units second) * den ≤ 2 * num := by
  have product_pos : (0 : ℚ) < (den * unitsPerOne : ℕ) :=
    Nat.cast_pos.mpr (Nat.mul_pos den_pos unitsPerOne_pos)
  rw [magnitude_add, two_mul_quotient den_pos stands,
    div_le_div_iff₀ unitsPerOne_cast_pos product_pos, ← Nat.cast_mul,
    ← Nat.cast_mul, Nat.cast_le, ← Nat.mul_assoc,
    Nat.mul_le_mul_right_iff unitsPerOne_pos]

theorem quotient_le_midpoint_iff :
    2 * value ≤ magnitude first + magnitude second ↔
      2 * num ≤ (units first + units second) * den := by
  have product_pos : (0 : ℚ) < (den * unitsPerOne : ℕ) :=
    Nat.cast_pos.mpr (Nat.mul_pos den_pos unitsPerOne_pos)
  rw [magnitude_add, two_mul_quotient den_pos stands,
    div_le_div_iff₀ product_pos unitsPerOne_cast_pos, ← Nat.cast_mul,
    ← Nat.cast_mul, Nat.cast_le, ← Nat.mul_assoc,
    Nat.mul_le_mul_right_iff unitsPerOne_pos]

end Midpoints

section Decimals

variable (decimal : Decimal) (first second : Nat)

theorem decimal_stands : decimal.value * (decimal.den * unitsPerOne) =
    (decimal.num * unitsPerOne : ℕ) := by
  have den_ne : (decimal.den : ℚ) ≠ 0 :=
    Nat.cast_ne_zero.mpr decimal.den_pos.ne'
  rw [Decimal.value_eq_div, ← mul_assoc, div_mul_cancel₀ _ den_ne,
    Nat.cast_mul]

theorem midpoint_le_value_iff :
    magnitude first + magnitude second ≤ 2 * decimal.value ↔
      (units first + units second) * decimal.den ≤
        2 * (decimal.num * unitsPerOne) :=
  midpoint_le_quotient_iff decimal.den_pos (decimal_stands decimal) ..

theorem value_le_midpoint_iff :
    2 * decimal.value ≤ magnitude first + magnitude second ↔
      2 * (decimal.num * unitsPerOne) ≤
        (units first + units second) * decimal.den :=
  quotient_le_midpoint_iff decimal.den_pos (decimal_stands decimal) ..

end Decimals

/-- A decimal strictly between the midpoints of a rank is read as that rank. -/
theorem rankOfDecimal_eq_of_between {decimal : Decimal} {rank : Nat}
    (above : rank ≠ 0 →
      magnitude (rank - 1) + magnitude rank < 2 * decimal.value)
    (below : 2 * decimal.value < magnitude rank + magnitude (rank + 1)) :
    rankOfDecimal decimal = rank := by
  refine nearestRank_eq_of_between decimal.den_pos (fun positive => ?_) ?_
  · have less := above positive
    rwa [← not_le, value_le_midpoint_iff, not_le] at less
  · rwa [← not_le, midpoint_le_value_iff, not_le] at below

end Binary64

/-! ## Leading places -/

theorem lt_pow_digitCount (n : Nat) : n < Nat.pow 10 (digitCount n) :=
  (Nat.length_toDigits_le_iff (by decide) Nat.length_toDigits_pos).mp le_rfl

theorem pow_digitCount_le {n : Nat} (h : n ≠ 0) :
    Nat.pow 10 (digitCount n - 1) ≤ n := by
  by_contra less
  rw [not_le] at less
  have count_pos : 0 < digitCount n := Nat.length_toDigits_pos
  rcases Nat.eq_zero_or_pos (digitCount n - 1) with single | several
  · rw [single] at less
    exact h (Nat.lt_one_iff.mp less)
  · have fewer : digitCount n ≤ digitCount n - 1 :=
      (Nat.length_toDigits_le_iff (by decide) several).mpr less
    omega

/-- The whole part of a shifted quotient tells the place of its first digit. -/
theorem place_bounds {num den shift : Nat} (den_pos : 0 < den)
    (h : num * Nat.pow 10 shift / den ≠ 0) :
    (10 : ℚ) ^ ((digitCount (num * Nat.pow 10 shift / den) : Int) -
        (shift + 1 : ℕ)) ≤ num / den ∧
      (num / den : ℚ) < 10 ^ ((digitCount (num * Nat.pow 10 shift / den) : Int)
        - (shift : ℕ)) := by
  have den_pos' : (0 : ℚ) < den := Nat.cast_pos.mpr den_pos
  have shift_pos : (0 : ℚ) < 10 ^ shift := pow_pos (by norm_num) shift
  have shifted : (num / den : ℚ) * 10 ^ shift =
      (num * Nat.pow 10 shift : ℕ) / (den : ℚ) := by
    rw [div_mul_eq_mul_div, Nat.cast_mul, Nat.pow_eq, Nat.cast_pow,
      Nat.cast_ofNat]
  have low : ((num * Nat.pow 10 shift / den : ℕ) : ℚ) ≤
      num / den * 10 ^ shift := by
    rw [shifted]
    exact Nat.cast_div_le
  have high : (num / den : ℚ) * 10 ^ shift <
      (num * Nat.pow 10 shift / den : ℕ) + 1 := by
    have above := Nat.lt_mul_div_succ (num * Nat.pow 10 shift) den_pos
    rw [Nat.mul_comm den] at above
    rw [shifted, div_lt_iff₀ den_pos']
    exact_mod_cast above
  generalize num * Nat.pow 10 shift / den = whole at h low high ⊢
  have first : (10 : ℚ) ^ (digitCount whole - 1) ≤ whole := by
    exact_mod_cast pow_digitCount_le h
  have last : (whole + 1 : ℚ) ≤ 10 ^ digitCount whole := by
    exact_mod_cast lt_pow_digitCount whole
  have count_pos : 0 < digitCount whole := Nat.length_toDigits_pos
  have place : (digitCount whole : Int) - (shift + 1 : ℕ) =
      ((digitCount whole - 1 : ℕ) : Int) - (shift : ℕ) := by
    omega
  rw [place, zpow_sub₀ (by norm_num), zpow_sub₀ (by norm_num), zpow_natCast,
    zpow_natCast, zpow_natCast, div_le_iff₀ shift_pos, lt_div_iff₀ shift_pos]
  exact ⟨first.trans low, high.trans_le last⟩

namespace Binary64

theorem leadingPlace_bounds {rank : Nat} (h : rank ≠ 0) :
    (10 : ℚ) ^ leadingPlace rank ≤ magnitude rank ∧
      magnitude rank < 10 ^ (leadingPlace rank + 1) := by
  have positive : 0 < units rank := by
    rw [← units_zero]
    exact units_strictMono (Nat.pos_of_ne_zero h)
  have whole_ne : units rank * Nat.pow 10 400 / unitsPerOne ≠ 0 := by
    have large : unitsPerOne ≤ Nat.pow 10 400 := by decide +kernel
    have shifted := large.trans (Nat.le_mul_of_pos_left _ positive)
    exact (Nat.div_pos shifted unitsPerOne_pos).ne'
  have bounds := place_bounds unitsPerOne_pos whole_ne
  have next : leadingPlace rank + 1 =
      digitCount (units rank * Nat.pow 10 400 / unitsPerOne) - (400 : ℕ) := by
    unfold leadingPlace
    omega
  rw [next]
  exact bounds

/-! ## Neighbours on a grid -/

/-- The last multiple of a power of ten that is not above a magnitude. -/
def gridPoint (rank : Nat) (exponent : Int) : Nat :=
  units rank * Nat.pow 10 (-exponent).toNat /
    (unitsPerOne * Nat.pow 10 exponent.toNat)

theorem gridPoint_bounds (rank : Nat) (exponent : Int) :
    gridPoint rank exponent * (10 : ℚ) ^ exponent ≤ magnitude rank ∧
      magnitude rank < (gridPoint rank exponent + 1) * (10 : ℚ) ^ exponent := by
  have step_pos : (0 : ℚ) < 10 ^ exponent := zpow_pos (by norm_num) exponent
  have den_pos : 0 < unitsPerOne * Nat.pow 10 exponent.toNat :=
    Nat.mul_pos unitsPerOne_pos (Nat.pow_pos (by decide))
  have den_pos' : (0 : ℚ) < (unitsPerOne * Nat.pow 10 exponent.toNat : ℕ) :=
    Nat.cast_pos.mpr den_pos
  have quotient : magnitude rank / 10 ^ exponent =
      (units rank * Nat.pow 10 (-exponent).toNat : ℕ) /
        (unitsPerOne * Nat.pow 10 exponent.toNat : ℕ) := by
    rw [ten_zpow_eq_div, magnitude, Nat.cast_mul, Nat.cast_mul,
      div_div_div_eq]
  have below := Nat.lt_mul_div_succ
    (units rank * Nat.pow 10 (-exponent).toNat) den_pos
  rw [Nat.mul_comm (unitsPerOne * _)] at below
  rw [← le_div_iff₀ step_pos, ← div_lt_iff₀ step_pos, quotient]
  refine ⟨Nat.cast_div_le, ?_⟩
  rw [div_lt_iff₀ den_pos']
  exact_mod_cast below

theorem neighbour?_eq_some {tie : Tie} {rank : Nat} {exponent : Int}
    {decimal : Decimal} (h : neighbour? tie rank exponent = some decimal) :
    (decimal = ⟨gridPoint rank exponent, exponent⟩ ∨
        decimal = ⟨gridPoint rank exponent + 1, exponent⟩) ∧
      rankOfDecimal decimal = rank := by
  have member := List.mem_of_find?_eq_some h
  have reads := List.find?_some h
  refine ⟨?_, beq_iff_eq.mp reads⟩
  split at member
  · exact List.mem_pair.mp member
  · exact (List.mem_pair.mp member).symm

theorem neighbour?_isSome (tie : Tie) {rank : Nat} {exponent : Int}
    (h : rankOfDecimal ⟨gridPoint rank exponent, exponent⟩ = rank ∨
      rankOfDecimal ⟨gridPoint rank exponent + 1, exponent⟩ = rank) :
    (neighbour? tie rank exponent).isSome = true := by
  simp only [neighbour?]
  rw [List.find?_isSome]
  rcases h with lower | upper
  · refine ⟨⟨gridPoint rank exponent, exponent⟩, ?_, beq_iff_eq.mpr lower⟩
    split <;> simp [gridPoint]
  · refine ⟨⟨gridPoint rank exponent + 1, exponent⟩, ?_, beq_iff_eq.mpr upper⟩
    split <;> simp [gridPoint]

/-- On a grid of seventeen digits the nearer neighbour reads back. -/
theorem neighbour_reads_back {rank : Nat} {exponent : Int} (h : rank ≠ 0)
    (fine : (10 : ℚ) ^ exponent * 10 ^ 16 ≤ magnitude rank) :
    rankOfDecimal ⟨gridPoint rank exponent, exponent⟩ = rank ∨
      rankOfDecimal ⟨gridPoint rank exponent + 1, exponent⟩ = rank := by
  obtain ⟨low, high⟩ := gridPoint_bounds rank exponent
  have gap_above : (10 : ℚ) ^ exponent <
      magnitude (rank + 1) - magnitude rank := by
    have gap := magnitude_gap rank
    have step := magnitude_strictMono (Nat.lt_succ_self rank)
    linarith
  have gap_below : (10 : ℚ) ^ exponent <
      magnitude rank - magnitude (rank - 1) := by
    have gap := magnitude_gap (rank - 1)
    rw [Nat.sub_add_cancel (Nat.pos_of_ne_zero h)] at gap
    linarith
  have lower_eq : Decimal.value ⟨gridPoint rank exponent, exponent⟩ =
      gridPoint rank exponent * 10 ^ exponent := rfl
  have upper_eq : Decimal.value ⟨gridPoint rank exponent + 1, exponent⟩ =
      (gridPoint rank exponent + 1) * 10 ^ exponent := by
    rw [Decimal.value, Nat.cast_add, Nat.cast_one]
  rcases le_total (2 * magnitude rank)
    ((2 * gridPoint rank exponent + 1) * 10 ^ exponent) with near | far
  · refine .inl (rankOfDecimal_eq_of_between (fun _ => ?_) ?_) <;>
      rw [lower_eq] <;> linarith
  · refine .inr (rankOfDecimal_eq_of_between (fun _ => ?_) ?_) <;>
      rw [upper_eq] <;> linarith

/-! ## Shortest decimals -/

theorem carryTen_value (decimal : Decimal) :
    (carryTen decimal).value = decimal.value := by
  unfold carryTen
  split
  · rename_i ten
    rw [Decimal.value, Decimal.value, ten, zpow_add₀ (by norm_num)]
    push_cast
    ring
  · rfl

theorem rankOfDecimal_congr {first second : Decimal}
    (h : first.value = second.value) :
    rankOfDecimal first = rankOfDecimal second := by
  have first_pos : (first.den : ℚ) ≠ 0 :=
    Nat.cast_ne_zero.mpr first.den_pos.ne'
  have second_pos : (second.den : ℚ) ≠ 0 :=
    Nat.cast_ne_zero.mpr second.den_pos.ne'
  have same : first.num * second.den = second.num * first.den := by
    rw [Decimal.value_eq_div, Decimal.value_eq_div,
      div_eq_div_iff first_pos second_pos] at h
    exact_mod_cast h
  refine nearestRank_congr first.den_pos second.den_pos ?_
  rw [Nat.mul_right_comm, same, Nat.mul_right_comm]

/-- The shortest decimal lies on one of seventeen grids. -/
theorem shortest_spec (tie : Tie) {rank : Nat} (h : rank ≠ 0) :
    ∃ extra < 17, ∃ decimal : Decimal,
      decimal.exponent = leadingPlace rank - (extra : ℕ) ∧
      decimal.digits ≤ gridPoint rank decimal.exponent + 1 ∧
      rankOfDecimal decimal = rank ∧
      shortest tie rank = carryTen decimal := by
  let places := (List.range 17).map fun (extra : Nat) =>
    leadingPlace rank - extra
  have finest : leadingPlace rank - (16 : ℕ) ∈ places :=
    List.mem_map.mpr ⟨16, by decide, rfl⟩
  have fine : (10 : ℚ) ^ (leadingPlace rank - (16 : ℕ)) * 10 ^ 16 ≤
      magnitude rank := by
    rw [zpow_sub₀ (by norm_num), zpow_natCast,
      div_mul_cancel₀ _ (by norm_num)]
    exact (leadingPlace_bounds h).1
  have exists_some : (places.findSome? (neighbour? tie rank)).isSome = true :=
    List.findSome?_isSome_iff.mpr
      ⟨_, finest, neighbour?_isSome tie (neighbour_reads_back h fine)⟩
  obtain ⟨decimal, found⟩ := Option.isSome_iff_exists.mp exists_some
  obtain ⟨place, member, found_at⟩ := List.exists_of_findSome?_eq_some found
  obtain ⟨extra, below, rfl⟩ := List.mem_map.mp member
  obtain ⟨candidate, reads⟩ := neighbour?_eq_some found_at
  refine ⟨extra, List.mem_range.mp below, decimal, ?_, ?_, reads, ?_⟩
  · rcases candidate with rfl | rfl <;> rfl
  · rcases candidate with rfl | rfl
    · exact Nat.le_succ _
    · exact Nat.le_refl _
  · unfold shortest
    exact congrArg carryTen (congrArg (Option.getD · (exactDecimal rank)) found)

theorem rankOfDecimal_shortest (tie : Tie) {rank : Nat} (h : rank ≠ 0) :
    rankOfDecimal (shortest tie rank) = rank := by
  obtain ⟨_, -, decimal, -, -, reads, shortest_eq⟩ := shortest_spec tie h
  rw [shortest_eq, rankOfDecimal_congr (carryTen_value decimal), reads]

theorem gridPoint_lt {rank : Nat} (h : rank ≠ 0) (extra : Nat) :
    gridPoint rank (leadingPlace rank - (extra : ℕ)) <
      Nat.pow 10 (extra + 1) := by
  obtain ⟨low, -⟩ := gridPoint_bounds rank (leadingPlace rank - (extra : ℕ))
  have step_pos : (0 : ℚ) < 10 ^ (leadingPlace rank - (extra : ℕ)) :=
    zpow_pos (by norm_num) _
  have next : (10 : ℚ) ^ (leadingPlace rank + 1) =
      10 ^ (extra + 1) * 10 ^ (leadingPlace rank - (extra : ℕ)) := by
    rw [← zpow_natCast, ← zpow_add₀ (by norm_num)]
    congr 1
    omega
  have less := low.trans_lt (leadingPlace_bounds h).2
  rw [next] at less
  exact_mod_cast lt_of_mul_lt_mul_right less step_pos.le

theorem shortest_digits_le (tie : Tie) {rank : Nat} (h : rank ≠ 0) :
    (shortest tie rank).digits ≤ Nat.pow 10 17 := by
  obtain ⟨extra, below, decimal, place, digits_le, -, shortest_eq⟩ :=
    shortest_spec tie h
  have carried : (carryTen decimal).digits ≤ decimal.digits := by
    unfold carryTen
    split
    · rename_i ten
      exact ten ▸ (by decide : 1 ≤ 10)
    · exact le_rfl
  have point := gridPoint_lt h extra
  rw [← place] at point
  rw [shortest_eq]
  calc (carryTen decimal).digits
    _ ≤ decimal.digits := carried
    _ ≤ gridPoint rank decimal.exponent + 1 := digits_le
    _ ≤ Nat.pow 10 (extra + 1) := point
    _ ≤ Nat.pow 10 17 := Nat.pow_le_pow_right (by decide) below

theorem shortest_digits_pos (tie : Tie) {rank : Nat} (h : rank ≠ 0) :
    0 < (shortest tie rank).digits := by
  refine Nat.pos_of_ne_zero fun zero => h ?_
  rw [← rankOfDecimal_shortest tie h, rankOfDecimal, Decimal.num, zero,
    Nat.zero_mul, Nat.zero_mul, nearestRank_zero]

end Binary64

end MeterWatch
