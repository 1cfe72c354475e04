import MeterWatch.Proofs.Decimal.Correct
import MeterWatch.Proofs.Decimal.Precision
import MeterWatch.Proofs.Json.Numeral

/-!
# The range of numbers that are read

Digits that do not fit into a significand are dropped; the significand, the
power of ten and their product are rounded.  Each step is off by no more than
the last of 53 bits.  So every literal is read that stands for at most the first
fifteen digits of the greatest number, and none is that stands for one more in
the last of these digits.  In between, the spelling decides.
-/

namespace MeterWatch

/-! ## Rows of digits -/

theorem digit_le {c : Char} (h : c.isDigit = true) :
    c.toNat - '0'.toNat ≤ 9 := by
  have bound : c.toNat ≤ 57 := (Char.isDigit_iff_toNat.mp h).2
  have zero : '0'.toNat = 48 := rfl
  omega

theorem ofDigitChars_lt {digits : List Char}
    (all_digits : ∀ c ∈ digits, c.isDigit = true) (n : Nat) :
    Nat.ofDigitChars 10 digits n < (n + 1) * 10 ^ digits.length := by
  induction digits generalizing n with
  | nil => simp
  | cons c digits ih =>
      obtain ⟨digit, others⟩ := List.forall_mem_cons.mp all_digits
      have last := digit_le digit
      calc Nat.ofDigitChars 10 (c :: digits) n
        _ < (10 * n + (c.toNat - '0'.toNat) + 1) * 10 ^ digits.length :=
          ih others _
        _ ≤ (10 * (n + 1)) * 10 ^ digits.length :=
          Nat.mul_le_mul_right _ (by omega)
        _ = (n + 1) * 10 ^ (c :: digits).length := by
          rw [List.length_cons, pow_succ]
          ring

namespace Decimal

theorem value_succ (digits : Nat) (exponent : Int) :
    value ⟨digits + 1, exponent⟩ = value ⟨digits, exponent⟩ + 10 ^ exponent := by
  rw [value, value]
  push_cast
  ring

/-- Digits that are appended count less than one in the place before. -/
theorem value_appended {digits : List Char}
    (all_digits : ∀ c ∈ digits, c.isDigit = true) (n : Nat) (exponent : Int) :
    value ⟨n, exponent⟩ ≤
        value ⟨Nat.ofDigitChars 10 digits n, exponent - digits.length⟩ ∧
      value ⟨Nat.ofDigitChars 10 digits n, exponent - digits.length⟩ ≤
        value ⟨n, exponent⟩ + 10 ^ exponent := by
  have step_pos : (0 : ℚ) < 10 ^ (exponent - digits.length) :=
    zpow_pos (by norm_num) _
  have shifted (first : Nat) : value ⟨first, exponent⟩ =
      value ⟨first * 10 ^ digits.length, exponent - digits.length⟩ := by
    rw [value_shift, Int.sub_add_cancel]
  have low : n * 10 ^ digits.length ≤ Nat.ofDigitChars 10 digits n := by
    rw [Nat.ofDigitChars_eq_ofDigitChars_zero, Nat.mul_comm]
    exact Nat.le_add_right _ _
  rw [← value_succ, shifted n, shifted (n + 1)]
  exact ⟨mul_le_mul_of_nonneg_right (Nat.cast_le.mpr low) step_pos.le,
    mul_le_mul_of_nonneg_right
      (Nat.cast_le.mpr (ofDigitChars_lt all_digits n).le) step_pos.le⟩

end Decimal

namespace Binary64

theorem isClose_refl {exact : ℚ} (h : 0 ≤ exact) : IsClose exact exact := by
  simpa [IsClose] using h

/-- Numbers that share a significand of 53 bits are close. -/
theorem isClose_of_leading {leading : Nat} {exponent : Int}
    (h : binade ≤ leading) {approximate exact : ℚ}
    (low : Decimal.value ⟨leading, exponent⟩ ≤ approximate)
    (high : approximate ≤
      Decimal.value ⟨leading, exponent⟩ + 10 ^ exponent)
    (low' : Decimal.value ⟨leading, exponent⟩ ≤ exact)
    (high' : exact ≤ Decimal.value ⟨leading, exponent⟩ + 10 ^ exponent) :
    IsClose approximate exact := by
  have bits : (binade : ℕ) * (10 : ℚ) ^ exponent ≤ exact :=
    (mul_le_mul_of_nonneg_right (Nat.cast_le.mpr h)
      (zpow_pos (by norm_num) exponent).le).trans low'
  rw [isClose_iff]
  simp only [binade] at bits ⊢
  push_cast at bits ⊢
  constructor <;> linarith

section Factors

variable {first second exact exact' : ℚ} (h : IsClose first exact)
  (h' : IsClose second exact')

include h

theorem IsClose.le : binade * first ≤ (binade + 1) * exact := by
  have above := (isClose_iff.mp h).2
  linarith

theorem IsClose.ge : (binade - 1) * exact ≤ binade * first := by
  have below := (isClose_iff.mp h).1
  linarith

include h'

theorem IsClose.mul_le (second_nonneg : 0 ≤ second) (exact_nonneg : 0 ≤ exact) :
    binade ^ 2 * (first * second) ≤ (binade + 1) ^ 2 * (exact * exact') := by
  have bits : (0 : ℚ) ≤ (binade : ℕ) := Nat.cast_nonneg _
  have product := mul_le_mul h.le h'.le (mul_nonneg bits second_nonneg)
    (mul_nonneg (by linarith) exact_nonneg)
  linarith

theorem IsClose.le_mul (exact_nonneg : 0 ≤ exact') (first_nonneg : 0 ≤ first) :
    (binade - 1) ^ 2 * (exact * exact') ≤ binade ^ 2 * (first * second) := by
  have bits : (1 : ℚ) ≤ (binade : ℕ) := by norm_num
  have product := mul_le_mul h.ge h'.ge
    (mul_nonneg (by linarith) exact_nonneg)
    (mul_nonneg (by linarith) first_nonneg)
  linarith

end Factors

/-! ## Products of magnitudes -/

theorem natRank_isClose {n : Nat} (h : n ≠ 0) :
    IsClose (magnitude (natRank n)) n := by
  have value_eq : Decimal.value ⟨n, 0⟩ = n := by simp [Decimal.value]
  have one_le : 1 ≤ Decimal.value ⟨n, 0⟩ :=
    value_eq ▸ Nat.one_le_cast.mpr (Nat.pos_of_ne_zero h)
  have close := rankOfDecimal_isClose one_le
  rwa [rankOfDecimal_whole, value_eq] at close

theorem powerRank_isClose (exponent : Nat) :
    IsClose (magnitude (powerRank exponent)) (10 ^ exponent) := by
  have close := natRank_isClose (pow_pos (by decide : 0 < 10) exponent).ne'
  push_cast at close
  exact close

section Products

variable {first second n : Nat}

private theorem square_pos : (0 : ℚ) < (unitsPerOne * unitsPerOne : ℕ) :=
  Nat.cast_pos.mpr (Nat.mul_pos unitsPerOne_pos unitsPerOne_pos)

private theorem magnitude_mul : magnitude first * magnitude second =
    (units first * units second : ℕ) /
      ((unitsPerOne * unitsPerOne : ℕ) : ℚ) := by
  rw [magnitude, magnitude, div_mul_div_comm, Nat.cast_mul, Nat.cast_mul]

private theorem natRank_eq_product : natRank n =
    nearestRank (n * (unitsPerOne * unitsPerOne)) unitsPerOne := by
  rw [natRank, ← nearestRank_mul_self _ unitsPerOne_pos, Nat.mul_assoc]

theorem product_le_natRank (h : magnitude first * magnitude second ≤ n) :
    nearestRank (units first * units second) unitsPerOne ≤ natRank n := by
  rw [magnitude_mul, div_le_iff₀ square_pos] at h
  rw [natRank_eq_product]
  exact nearestRank_mono _ (by exact_mod_cast h)

theorem natRank_le_product (h : n ≤ magnitude first * magnitude second) :
    natRank n ≤ nearestRank (units first * units second) unitsPerOne := by
  rw [magnitude_mul, le_div_iff₀ square_pos] at h
  rw [natRank_eq_product]
  exact nearestRank_mono _ (by exact_mod_cast h)

end Products

end Binary64

namespace Json

open Binary64

/-! ## Digits that are gathered -/

/-- A digit is only left where the significand is full. -/
theorem gather_spec {digits : List Char}
    (all_digits : ∀ c ∈ digits, c.isDigit = true) (significand : Nat) :
    ∃ taken, digits = taken ++ (gather significand digits).2 ∧
      (gather significand digits).1 = Nat.ofDigitChars 10 taken significand ∧
      ((gather significand digits).2 ≠ [] →
        binade ≤ (gather significand digits).1) := by
  induction digits generalizing significand with
  | nil => exact ⟨[], rfl, rfl, fun left => absurd rfl left⟩
  | cons c digits ih =>
      obtain ⟨digit, others⟩ := List.forall_mem_cons.mp all_digits
      have last := digit_le digit
      simp only [gather, digit, Bool.true_and, decide_eq_true_iff]
      split
      · obtain ⟨taken, digits_eq, value_eq, full⟩ := ih others
          (10 * significand + (c.toNat - '0'.toNat))
        refine ⟨c :: taken, ?_, value_eq, full⟩
        rw [List.cons_append, ← digits_eq]
      · rename_i full
        refine ⟨[], rfl, rfl, fun _ => ?_⟩
        simp only [significandLimit, binade] at full ⊢
        omega

/-- Digits that are left behind a full significand change it little. -/
theorem left_isClose {left : List Char}
    (all_digits : ∀ c ∈ left, c.isDigit = true) {significand : Nat}
    (full : left ≠ [] → binade ≤ significand) (exponent : Int) :
    IsClose (Decimal.value ⟨Nat.ofDigitChars 10 left significand,
      exponent - left.length⟩) (Decimal.value ⟨significand, exponent⟩) := by
  have step_pos : (0 : ℚ) < 10 ^ exponent := zpow_pos (by norm_num) exponent
  by_cases none : left = []
  · subst none
    rw [Nat.ofDigitChars_nil, List.length_nil, Nat.cast_zero, sub_zero]
    exact isClose_refl (mul_nonneg (Nat.cast_nonneg _) step_pos.le)
  · obtain ⟨low, high⟩ :=
      Decimal.value_appended all_digits significand exponent
    exact isClose_of_leading (full none) low high le_rfl (by linarith)

/-- The digits that are dropped are behind the last of 53 bits. -/
theorem gathered_isClose {numeral : Numeral}
    (all_digits : ∀ c ∈ numeral.whole ++ numeral.fraction, c.isDigit = true) :
    IsClose numeral.decimal.value
      (Decimal.value ⟨(gathered numeral.whole numeral.fraction).1,
        (gathered numeral.whole numeral.fraction).2 + numeral.exponent⟩) := by
  obtain ⟨negative, whole, fraction, marked⟩ := numeral
  obtain ⟨whole_digits, fraction_digits⟩ := List.forall_mem_append.mp all_digits
  obtain ⟨taken, whole_eq, first_eq, full⟩ := gather_spec whole_digits 0
  obtain ⟨taken', fraction_eq, significand_eq, full'⟩ :=
    gather_spec fraction_digits (gather 0 whole).1
  simp only [gathered, Numeral.decimal, digitsValue_eq]
  generalize (gather 0 whole).2 = dropped at *
  generalize (gather 0 whole).1 = first at *
  generalize (gather first fraction).2 = left at *
  generalize (gather first fraction).1 = significand at *
  subst whole_eq fraction_eq first_eq significand_eq
  obtain ⟨-, dropped_digits⟩ := List.forall_mem_append.mp whole_digits
  obtain ⟨taken_digits, left_digits⟩ :=
    List.forall_mem_append.mp fraction_digits
  have places : (dropped.length : Int) -
      ((taken' ++ left).length - left.length) + marked =
        dropped.length + marked - taken'.length := by
    simp only [List.length_append]
    omega
  rw [places]
  by_cases none : dropped = []
  · subst none
    have behind : marked - (taken' ++ left).length =
        ([] : List Char).length + marked - taken'.length - left.length := by
      simp only [List.length_append, List.length_nil]
      omega
    rw [List.append_nil, Nat.ofDigitChars_append, Nat.ofDigitChars_append,
      behind]
    exact left_isClose left_digits full' _
  · -- A digit of the whole part is missing, so both lie in one of its places.
    have behind : marked - (taken' ++ left).length =
        dropped.length + marked - (dropped ++ (taken' ++ left)).length := by
      simp only [List.length_append]
      omega
    have others := List.forall_mem_append.mpr ⟨dropped_digits, fraction_digits⟩
    rw [List.append_assoc, Nat.ofDigitChars_append, behind]
    obtain ⟨low, high⟩ := Decimal.value_appended others
      (Nat.ofDigitChars 10 taken 0) (dropped.length + marked)
    obtain ⟨low', high'⟩ := Decimal.value_appended taken_digits
      (Nat.ofDigitChars 10 taken 0) (dropped.length + marked)
    exact isClose_of_leading (full none) low high low' high'

/-! ## Significands that are scaled -/

/-- Sizes are compared at the place of the sixteenth digit of the greatest
number. -/
def lastPlace : ℚ := 10 ^ 293

theorem lastPlace_pos : 0 < lastPlace := pow_pos (by norm_num) 293

theorem cast_mul_lastPlace (digits : Nat) :
    ((digits * 10 ^ 293 : ℕ) : ℚ) = digits * lastPlace := by
  rw [Nat.cast_mul, Nat.cast_pow, Nat.cast_ofNat, lastPlace]

section Scaled

variable {significand : Nat} (h : significand < significandLimit)

theorem value_le_of_nonpos {exponent : Int} (nonpos : exponent ≤ 0) :
    Decimal.value ⟨significand, exponent⟩ ≤ significand := by
  have power_le : (10 : ℚ) ^ exponent ≤ 1 :=
    zpow_le_one_of_nonpos₀ (by norm_num) nonpos
  simpa [Decimal.value] using
    mul_le_mul_of_nonneg_left power_le (Nat.cast_nonneg significand)

theorem le_value_of_large {exponent : Int} (nonzero : significand ≠ 0)
    (large : 309 ≤ exponent) :
    10 ^ 16 * lastPlace ≤ Decimal.value ⟨significand, exponent⟩ := by
  have power_le : (10 : ℚ) ^ (309 : Int) ≤ 10 ^ exponent :=
    zpow_le_zpow_right₀ (by norm_num) large
  have one_le : (1 : ℚ) ≤ significand :=
    Nat.one_le_cast.mpr (Nat.pos_of_ne_zero nonzero)
  calc (10 : ℚ) ^ 16 * lastPlace
    _ = 1 * 10 ^ (309 : Int) := by
      rw [lastPlace, ← pow_add, one_mul]
      exact (zpow_natCast 10 309).symm
    _ ≤ significand * 10 ^ exponent :=
      mul_le_mul one_le power_le (by positivity) (by positivity)

include h

theorem value_lt_lastPlace {exponent : Int} (nonpos : exponent ≤ 0) :
    Decimal.value ⟨significand, exponent⟩ < lastPlace := by
  have bits : (significand : ℚ) < (significandLimit : ℕ) := Nat.cast_lt.mpr h
  calc Decimal.value ⟨significand, exponent⟩
    _ ≤ significand := value_le_of_nonpos nonpos
    _ < (significandLimit : ℕ) := bits
    _ < 10 ^ 20 := by norm_num [significandLimit]
    _ ≤ lastPlace := pow_le_pow_right₀ (by norm_num) (by decide)

theorem pos_of_large {exponent : Int}
    (large : lastPlace ≤ Decimal.value ⟨significand, exponent⟩) :
    significand ≠ 0 ∧ 0 < exponent := by
  constructor
  · rintro rfl
    have zero : Decimal.value ⟨0, exponent⟩ = 0 := by simp [Decimal.value]
    exact absurd lastPlace_pos (not_lt.mpr (zero ▸ large))
  · by_contra nonpos
    exact absurd large (not_le.mpr (value_lt_lastPlace h (not_lt.mp nonpos)))

theorem scaled?_product {exponent : Nat} (nonzero : significand ≠ 0)
    (small : exponent ≤ 308) :
    (scaled? significand exponent).isSome = decide
      (nearestRank (units (natRank significand) * units (powerRank exponent))
        unitsPerOne < rankLimit) := by
  have not_large : ¬ (308 : Int) < exponent := by omega
  have not_negative : ¬ (exponent : Int) < 0 := by omega
  rw [scaled?, if_neg not_negative, if_neg nonzero, if_neg not_large,
    Int.toNat_natCast, ofNat_eq h, power_eq small, mul_eq_ofRank]
  simp only [ofRank]
  split
  · rename_i fits
    simp [isFinite, fits]
  · rename_i overflow
    simp [isFinite, overflow]

theorem scaled?_isSome {exponent : Int}
    (small : Decimal.value ⟨significand, exponent⟩ ≤
      1797693134862311 * lastPlace) :
    (scaled? significand exponent).isSome = true := by
  rcases lt_or_ge exponent 0 with negative | nonneg
  · simp [scaled?, negative]
  by_cases zero : significand = 0
  · simp [scaled?, not_lt.mpr nonneg, zero]
  obtain ⟨size, rfl⟩ := Int.eq_ofNat_of_zero_le nonneg
  have size_le : size ≤ 308 := by
    by_contra large
    have exceeds := le_value_of_large zero (by omega : 309 ≤ (size : Int))
    have positive := lastPlace_pos
    linarith
  have product := (natRank_isClose zero).mul_le (powerRank_isClose size)
    (magnitude_nonneg _) (Nat.cast_nonneg _)
  have bound : magnitude (natRank significand) * magnitude (powerRank size) ≤
      (1797693134862315 * 10 ^ 293 : ℕ) := by
    rw [← zpow_natCast] at product
    change _ ≤ (binade + 1 : ℚ) ^ 2 * Decimal.value ⟨significand, size⟩
      at product
    have positive := lastPlace_pos
    simp only [binade] at product
    rw [cast_mul_lastPlace]
    push_cast at product ⊢
    linarith
  -- The limit lies between two numbers of sixteen digits; the product is
  -- compared with the lower one here, and with the upper one below.
  rw [scaled?_product h zero size_le, decide_eq_true_iff]
  exact (product_le_natRank bound).trans_lt (by decide +kernel)

theorem scaled?_eq_none {exponent : Int}
    (large : 1797693134862319 * lastPlace ≤
      Decimal.value ⟨significand, exponent⟩) :
    scaled? significand exponent = none := by
  have positive := lastPlace_pos
  obtain ⟨nonzero, exponent_pos⟩ := pos_of_large h (le_trans (by linarith) large)
  rcases lt_or_ge 308 exponent with overflow | within
  · simp [scaled?, exponent_pos.le, nonzero, overflow]
  obtain ⟨size, rfl⟩ := Int.eq_ofNat_of_zero_le exponent_pos.le
  have product := (natRank_isClose nonzero).le_mul (powerRank_isClose size)
    (by positivity) (magnitude_nonneg _)
  have bound : (1797693134862316 * 10 ^ 293 : ℕ) ≤
      magnitude (natRank significand) * magnitude (powerRank size) := by
    rw [← zpow_natCast] at product
    change (binade - 1 : ℚ) ^ 2 * Decimal.value ⟨significand, size⟩ ≤ _
      at product
    simp only [binade] at product
    rw [cast_mul_lastPlace]
    push_cast at product ⊢
    linarith
  rw [← Option.not_isSome_iff_eq_none,
    scaled?_product h nonzero (by omega), decide_eq_true_iff, not_lt]
  exact le_trans (by decide +kernel) (natRank_le_product bound)

/-- The places of a text are too few to make up for an exponent that is not
added. -/
theorem scaledBy?_isSome {exponent marked : Int}
    (short : exponent.natAbs ≤ 2000000000)
    (small : Decimal.value ⟨significand, exponent + marked⟩ ≤
      1797693134862311 * lastPlace) :
    (scaledBy? significand exponent marked).isSome = true := by
  unfold scaledBy?
  split
  · exact scaled?_isSome h small
  · rename_i huge
    split
    · rename_i overflow
      simp only [exponentLimit] at huge
      have exceeds := le_value_of_large overflow.1
        (by omega : 309 ≤ exponent + marked)
      have positive := lastPlace_pos
      linarith
    · rfl

theorem scaledBy?_eq_none {exponent marked : Int}
    (short : exponent.natAbs ≤ 2000000000)
    (large : 1797693134862319 * lastPlace ≤
      Decimal.value ⟨significand, exponent + marked⟩) :
    scaledBy? significand exponent marked = none := by
  have positive := lastPlace_pos
  obtain ⟨nonzero, exponent_pos⟩ := pos_of_large h (le_trans (by linarith) large)
  unfold scaledBy?
  split
  · exact scaled?_eq_none h large
  · rename_i huge
    simp only [exponentLimit] at huge
    rw [if_pos ⟨nonzero, by omega⟩]

end Scaled

/-! ## Literals -/

theorem gathered_lt (whole fraction : List Char) :
    (gathered whole fraction).1 < significandLimit :=
  gather_lt (gather_lt (by decide) whole) fraction

theorem gathered_exponent_le (whole fraction : List Char) :
    (gathered whole fraction).2.natAbs ≤ whole.length + fraction.length := by
  have dropped := (gather_suffix 0 whole).length_le
  have left := (gather_suffix (gather 0 whole).1 fraction).length_le
  simp only [gathered]
  omega

/-- Where the range of the numbers that are read ends. -/
theorem numberOf?_range {literal : List Char} {decimal : Decimal}
    (h : IsNumber literal) (short : literal.length ≤ 2000000000)
    (stands : decimalOf? literal = some decimal) :
    (decimal.value ≤ 179769313486231 * 10 ^ 294 →
      ∃ number, numberOf? literal = some number) ∧
    (179769313486232 * 10 ^ 294 ≤ decimal.value →
      numberOf? literal = none) := by
  obtain ⟨numeral, numeral_eq, read, all_digits, length_le⟩ :=
    h.exists_numeral
  have decimal_eq : numeral.decimal = decimal := by
    rw [decimalOf?, numeral_eq] at stands
    exact Option.some.inj stands
  subst decimal_eq
  have close := gathered_isClose all_digits
  have within := gathered_lt numeral.whole numeral.fraction
  have places := (gathered_exponent_le numeral.whole numeral.fraction).trans
    (length_le.trans short)
  have positive := lastPlace_pos
  have place : (10 : ℚ) ^ 294 = 10 * lastPlace := pow_succ' 10 293
  rw [read, place, ← Option.isSome_iff_exists, reading?]
  simp only [Option.isSome_map, Option.map_eq_none_iff]
  have below := close.le
  have above := close.ge
  simp only [binade] at below above
  push_cast at below above
  constructor
  · intro small
    exact scaledBy?_isSome within places
      (by linarith only [above, small, positive])
  · intro large
    exact scaledBy?_eq_none within places
      (by linarith only [below, large, positive])

end Json

end MeterWatch
