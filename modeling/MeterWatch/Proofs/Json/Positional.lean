import MeterWatch.Proofs.Json.Literal
import MeterWatch.Proofs.Json.Scaling

/-!
# Reading positional decimals

A decimal written in positional notation is a number literal.  Its digits are
gathered in a significand as far as they fit, and the significand is scaled
once, so the number that is read need not be the nearest one.
-/

namespace MeterWatch

open Json

/-! ## Rows of digits -/

theorem toDigits_head (n : Nat) (h : n ≠ 0) :
    (Nat.toDigits 10 n).head? ≠ some '0' := by
  induction n using Nat.strong_induction_on with
  | _ n ih =>
      rw [Nat.toDigits_eq_if (by decide)]
      split
      · rename_i small
        have nonzero : ∀ digit < 10, digit ≠ 0 →
            [Nat.digitChar digit].head? ≠ some '0' := by decide
        exact nonzero n small h
      · rename_i large
        have smaller := ih (n / 10) (by omega) (by omega)
        rwa [List.head?_append_of_ne_nil _ Nat.toDigits_ne_nil]

theorem toDigits_isDigits (n : Nat) : IsDigits (Nat.toDigits 10 n) := by
  constructor
  · exact Nat.toDigits_ne_nil
  · intro c member
    exact Nat.isDigit_of_mem_toDigits (by decide) (by decide) member

namespace Json

theorem gather_fitting {digits : List Char}
    (all_digits : ∀ c ∈ digits, c.isDigit = true) {significand : Nat}
    (fits : Nat.ofDigitChars 10 digits significand < significandLimit)
    (rest : List Char) :
    gather significand (digits ++ rest) =
      gather (Nat.ofDigitChars 10 digits significand) rest := by
  induction digits generalizing significand with
  | nil => rfl
  | cons c digits ih =>
      obtain ⟨digit, others⟩ := List.forall_mem_cons.mp all_digits
      rw [Nat.ofDigitChars_cons] at fits ⊢
      have next := Nat.lt_of_le_of_lt (le_ofDigitChars digits _) fits
      simp only [List.cons_append, gather, digit, Bool.true_and,
        decide_eq_true_iff, if_pos next]
      exact ih others fits

theorem gather_nil (significand : Nat) : gather significand [] =
    (significand, []) := rfl

/-- How far a significand takes in zeros, and how many are left. -/
def gatherZeros (significand : Nat) : Nat → Nat × Nat
  | 0 => (significand, 0)
  | zeros + 1 =>
      if 10 * significand < significandLimit then
        gatherZeros (10 * significand) zeros
      else (significand, zeros + 1)

theorem gather_zeros (significand zeros : Nat) :
    gather significand (List.replicate zeros '0') =
      ((gatherZeros significand zeros).1,
        List.replicate (gatherZeros significand zeros).2 '0') := by
  induction zeros generalizing significand with
  | zero => rfl
  | succ zeros ih =>
      rw [List.replicate_succ, gather, gatherZeros]
      by_cases fits : 10 * significand < significandLimit
      · simp [fits, ih]
      · simp [fits, List.replicate_succ]

theorem gatherZeros_spec (significand zeros : Nat) :
    (gatherZeros significand zeros).2 ≤ zeros ∧
      (gatherZeros significand zeros).1 =
        significand * 10 ^ (zeros - (gatherZeros significand zeros).2) := by
  induction zeros generalizing significand with
  | zero => simp [gatherZeros]
  | succ zeros ih =>
      rw [gatherZeros]
      split
      · obtain ⟨bound, value⟩ := ih (10 * significand)
        constructor
        · omega
        · rw [value, Nat.succ_sub bound, pow_succ]
          ring
      · simp

theorem gatherZeros_lt {significand : Nat} (h : significand < significandLimit)
    (zeros : Nat) : (gatherZeros significand zeros).1 < significandLimit := by
  induction zeros generalizing significand with
  | zero => exact h
  | succ zeros ih =>
      rw [gatherZeros]
      split
      · exact ih ‹_›
      · exact h

end Json

/-! ## Positional notation -/

namespace Decimal

theorem paddedDigits_all (decimal : Decimal) :
    ∀ c ∈ decimal.paddedDigits, c.isDigit = true := by
  intro c member
  rcases List.mem_append.mp member with zero | digit
  · rw [List.eq_of_mem_replicate zero]
    rfl
  · exact (toDigits_isDigits _).2 c digit

theorem paddedDigits_value (decimal : Decimal) :
    Nat.ofDigitChars 10 decimal.paddedDigits 0 = decimal.digits := by
  rw [paddedDigits, Nat.ofDigitChars_append, Nat.ofDigitChars_replicate_zero,
    Nat.mul_zero, Nat.ofDigitChars_ten_toDigits]

theorem paddedDigits_length (decimal : Decimal) :
    decimal.paddedDigits.length =
      max ((-decimal.exponent).toNat + 1) (digitCount decimal.digits) := by
  simp only [paddedDigits, List.length_append, List.length_replicate,
    digitCount]
  omega

def wholeDigits (decimal : Decimal) : List Char :=
  decimal.paddedDigits.take
    (decimal.paddedDigits.length - (-decimal.exponent).toNat)

def fractionDigits (decimal : Decimal) : List Char :=
  decimal.paddedDigits.drop
    (decimal.paddedDigits.length - (-decimal.exponent).toNat)

theorem wholeDigits_append (decimal : Decimal) :
    decimal.wholeDigits ++ decimal.fractionDigits = decimal.paddedDigits :=
  List.take_append_drop _ _

theorem fractionDigits_length (decimal : Decimal) :
    decimal.fractionDigits.length = (-decimal.exponent).toNat := by
  have length_eq := decimal.paddedDigits_length
  rw [fractionDigits, List.length_drop]
  omega

section Negative

variable {decimal : Decimal} (h : decimal.exponent < 0)

include h

theorem positional_of_negative :
    decimal.positional =
      decimal.wholeDigits ++ '.' :: decimal.fractionDigits := by
  rw [positional, if_neg (by omega)]
  rfl

theorem fractionDigits_isDigits : IsDigits decimal.fractionDigits := by
  constructor
  · rw [← List.length_pos_iff, fractionDigits_length]
    omega
  · intro c member
    exact decimal.paddedDigits_all c (List.mem_of_mem_drop member)

theorem wholeDigits_isWhole : IsWhole decimal.wholeDigits := by
  have length_eq := decimal.paddedDigits_length
  have count_eq : (Nat.toDigits 10 decimal.digits).length =
      digitCount decimal.digits := rfl
  rcases Nat.lt_or_ge (-decimal.exponent).toNat (digitCount decimal.digits)
    with many | few
  · -- There is no padding, and the digits in front of the point lead.
    have unpadded : decimal.paddedDigits = Nat.toDigits 10 decimal.digits := by
      have none : (-decimal.exponent).toNat + 1 -
          (Nat.toDigits 10 decimal.digits).length = 0 := by omega
      rw [paddedDigits, none]
      rfl
    have nonzero : decimal.digits ≠ 0 := by
      intro zero
      rw [zero] at many
      have single : digitCount 0 = 1 := by decide
      omega
    refine .positive ⟨?_, ?_⟩ ?_
    · rw [← List.length_pos_iff, wholeDigits, List.length_take]
      omega
    · intro c member
      exact decimal.paddedDigits_all c (List.mem_of_mem_take member)
    · rw [wholeDigits, List.head?_take, if_neg (by omega), unpadded]
      exact toDigits_head _ nonzero
  · have first : decimal.paddedDigits.length -
        (-decimal.exponent).toNat = 1 := by omega
    obtain ⟨zeros, zeros_eq⟩ : ∃ zeros, (-decimal.exponent).toNat + 1 -
        (Nat.toDigits 10 decimal.digits).length = zeros + 1 :=
      ⟨_, Nat.succ_sub (count_eq ▸ few)⟩
    rw [wholeDigits, first, paddedDigits, zeros_eq, List.replicate_succ]
    exact .zero

end Negative

theorem positional_of_nonneg {decimal : Decimal} (h : 0 ≤ decimal.exponent)
    (canonical : decimal.digits = 0 → decimal.exponent = 0) :
    decimal.positional = Nat.toDigits 10 decimal.digits ++
        List.replicate decimal.exponent.toNat '0' ∧
      IsWhole decimal.positional := by
  have positional_eq : decimal.positional = Nat.toDigits 10 decimal.digits ++
      List.replicate decimal.exponent.toNat '0' := by
    rw [positional, if_pos h]
  refine ⟨positional_eq, ?_⟩
  rw [positional_eq]
  by_cases zero : decimal.digits = 0
  · rw [canonical zero, zero]
    exact .zero
  · refine .positive ⟨?_, ?_⟩ ?_
    · exact List.append_ne_nil_of_left_ne_nil Nat.toDigits_ne_nil _
    · intro c member
      rcases List.mem_append.mp member with digit | replicated
      · exact (toDigits_isDigits _).2 c digit
      · rw [List.eq_of_mem_replicate replicated]
        rfl
    · rw [List.head?_append_of_ne_nil _ Nat.toDigits_ne_nil]
      exact toDigits_head _ zero

theorem positional_isUnsigned {decimal : Decimal}
    (canonical : decimal.digits = 0 → decimal.exponent = 0) :
    IsUnsigned decimal.positional := by
  rcases lt_or_ge decimal.exponent 0 with negative | nonneg
  · refine ⟨_, _, _, wholeDigits_isWhole negative,
      .some (fractionDigits_isDigits negative), .none, ?_⟩
    rw [List.append_nil]
    exact positional_of_negative negative
  · refine ⟨_, _, _, (positional_of_nonneg nonneg canonical).2, .none, .none,
      ?_⟩
    rw [List.append_nil, List.append_nil]

/-- The significand and the exponent that a decimal is read with. -/
def gathered (decimal : Decimal) : Nat × Int :=
  if decimal.exponent < 0 then (decimal.digits, decimal.exponent)
  else
    let (significand, zeros) :=
      gatherZeros decimal.digits decimal.exponent.toNat
    (significand, zeros)

theorem gathered_lt {decimal : Decimal}
    (small : decimal.digits < significandLimit) :
    decimal.gathered.1 < significandLimit := by
  unfold gathered
  split
  · exact small
  · exact gatherZeros_lt small _

/-- Zeros that move between the digits and the exponent change no value. -/
theorem value_shift (digits zeros : Nat) (exponent : Int) :
    value ⟨digits * 10 ^ zeros, exponent⟩ =
      value ⟨digits, exponent + zeros⟩ := by
  unfold value
  push_cast
  rw [zpow_add₀ (by norm_num : (10 : ℚ) ≠ 0), zpow_natCast]
  ring

theorem gathered_value (decimal : Decimal) :
    value ⟨decimal.gathered.1, decimal.gathered.2⟩ = decimal.value := by
  unfold gathered
  split
  · rfl
  · rename_i nonneg
    obtain ⟨bound, gathered_eq⟩ :=
      gatherZeros_spec decimal.digits decimal.exponent.toNat
    have exponent_eq :
        ((gatherZeros decimal.digits decimal.exponent.toNat).2 : Int) +
          (decimal.exponent.toNat -
            (gatherZeros decimal.digits decimal.exponent.toNat).2 : ℕ) =
          decimal.exponent := by omega
    simp only
    rw [gathered_eq, value_shift, exponent_eq]

end Decimal

/-! ## Numbers that are read -/

namespace Json

open Binary64

theorem wholeNumber_value (negative : Bool) (size : Nat) :
    (wholeNumber negative size).value = applySign negative (ofNat size) := by
  cases negative with
  | false => simp [wholeNumber, Number.value, applySign]
  | true =>
      by_cases large : size = 0 ∨ negativeLimit < size
      · simp [wholeNumber, large, Number.value, applySign]
      · have below : decide (-(size : Int) < 0) = true := by
          rw [decide_eq_true_iff]
          omega
        have abs_eq : (-(size : Int)).natAbs = size := by omega
        simp only [wholeNumber, Bool.not_true, Bool.false_eq_true, if_false,
          large, Number.value, ofInt, below, abs_eq, applySign, if_true]
        rw [ofRatio_true, ofNat]

/-- The value of what is read, without the text that is left. -/
def valueOf? (outcome : Except Fault (Number × List Char)) :
    Option Binary64 :=
  outcome.toOption.map fun result => result.1.value

theorem finish_value (negative : Bool) (significand : Nat) (exponent : Int)
    (rest : List Char) :
    valueOf? (finish negative significand exponent rest) =
      (scaled? significand exponent).map (applySign negative) := by
  unfold valueOf? finish
  cases scaled? significand exponent <;> rfl

theorem numberOf?_sign (negative : Bool) {literal : List Char}
    (h : IsUnsigned literal) :
    numberOf? (signText negative ++ literal) =
      valueOf? (unsignedNumber negative literal) := by
  cases negative with
  | true =>
      change numberOf? ('-' :: literal) = _
      rw [numberOf?, readNumber_negative, valueOf?, toOption_bind]
      cases (unsignedNumber true literal).toOption <;> rfl
  | false =>
      change numberOf? literal = _
      obtain ⟨c, others, rfl, digit⟩ := h.exists_digit
      rw [numberOf?, readNumber_digit digit, valueOf?, toOption_bind]
      cases (unsignedNumber false (c :: others)).toOption <;> rfl

section Positional

variable (negative : Bool) {decimal : Decimal}
  (small : decimal.digits < significandLimit)

include small

theorem unsignedNumber_fraction (h : decimal.exponent < 0) :
    valueOf? (unsignedNumber negative decimal.positional) =
      (scaled? decimal.digits decimal.exponent).map (applySign negative) := by
  have hwhole := Decimal.wholeDigits_isWhole h
  have hfraction := Decimal.fractionDigits_isDigits h
  have value_eq : Nat.ofDigitChars 10 decimal.fractionDigits
      (Nat.ofDigitChars 10 decimal.wholeDigits 0) = decimal.digits := by
    rw [← Nat.ofDigitChars_append, Decimal.wholeDigits_append,
      Decimal.paddedDigits_value]
  have fits : Nat.ofDigitChars 10 decimal.fractionDigits
      (Nat.ofDigitChars 10 decimal.wholeDigits 0) < significandLimit :=
    value_eq ▸ small
  have whole_fits := Nat.lt_of_le_of_lt (le_ofDigitChars _ _) fits
  have whole_eq := gather_fitting hwhole.isDigits.2 whole_fits []
  have fraction_eq := gather_fitting hfraction.2 fits []
  have exponent_eq : (0 : Int) -
      (decimal.fractionDigits.length - ([] : List Char).length) =
        decimal.exponent := by
    rw [Decimal.fractionDigits_length, List.length_nil]
    omega
  rw [List.append_nil, gather_nil] at whole_eq fraction_eq
  rw [value_eq] at fraction_eq
  rw [Decimal.positional_of_negative h, unsignedNumber_whole _ hwhole rfl,
    whole_eq]
  have read_eq := fractionPart_digits negative
    (Nat.ofDigitChars 10 decimal.wholeDigits 0) 0 hfraction
    (rfl : startsWithDigit [] = false)
  rw [List.append_nil, fraction_eq, exponent_eq] at read_eq
  change valueOf? (fractionPart negative _ 0 decimal.fractionDigits) = _
  rw [read_eq]
  exact finish_value negative _ _ []

theorem unsignedNumber_zeros (h : 0 ≤ decimal.exponent)
    (canonical : decimal.digits = 0 → decimal.exponent = 0) :
    valueOf? (unsignedNumber negative decimal.positional) =
      (scaled? (gatherZeros decimal.digits decimal.exponent.toNat).1
        (gatherZeros decimal.digits decimal.exponent.toNat).2).map
          (applySign negative) := by
  obtain ⟨positional_eq, hwhole⟩ := Decimal.positional_of_nonneg h canonical
  have gather_eq : gather 0 decimal.positional =
      ((gatherZeros decimal.digits decimal.exponent.toNat).1,
        List.replicate
          (gatherZeros decimal.digits decimal.exponent.toNat).2 '0') := by
    have fits : Nat.ofDigitChars 10 (Nat.toDigits 10 decimal.digits) 0 <
        significandLimit := by
      rwa [Nat.ofDigitChars_ten_toDigits]
    rw [positional_eq, gather_fitting (toDigits_isDigits _).2 fits,
      Nat.ofDigitChars_ten_toDigits, gather_zeros]
  have below := gather_lt (by decide : 0 < significandLimit) decimal.positional
  rw [gather_eq] at below
  have read_eq := unsignedNumber_whole negative hwhole
    (rfl : startsWithDigit [] = false)
  rw [List.append_nil, gather_eq, List.length_replicate] at read_eq
  rw [read_eq]
  by_cases none : (gatherZeros decimal.digits decimal.exponent.toNat).2 = 0
  · rw [none, afterWhole_whole _ _ endsNumber_nil, Nat.cast_zero,
      scaled?_zero below]
    exact congrArg some (wholeNumber_value negative _)
  · rw [afterWhole_dropped _ _ none endsNumber_nil]
    exact finish_value negative _ _ []

theorem unsignedNumber_positional
    (canonical : decimal.digits = 0 → decimal.exponent = 0) :
    valueOf? (unsignedNumber negative decimal.positional) =
      (scaled? decimal.gathered.1 decimal.gathered.2).map
        (applySign negative) := by
  rcases lt_or_ge decimal.exponent 0 with below | nonneg
  · rw [Decimal.gathered, if_pos below]
    exact unsignedNumber_fraction negative small below
  · rw [Decimal.gathered, if_neg (not_lt.mpr nonneg)]
    exact unsignedNumber_zeros negative small nonneg canonical

theorem numberOf?_positional
    (canonical : decimal.digits = 0 → decimal.exponent = 0) :
    numberOf? (signText negative ++ decimal.positional) =
      (scaled? decimal.gathered.1 decimal.gathered.2).map
        (applySign negative) := by
  rw [numberOf?_sign negative (Decimal.positional_isUnsigned canonical),
    unsignedNumber_positional negative small canonical]

end Positional

/-! ## Whole numbers -/

theorem toList_toString (n : Int) :
    (toString n).toList =
      signText (n < 0) ++ Decimal.positional ⟨n.natAbs, 0⟩ := by
  cases n <;>
    simp [signText, Decimal.positional, toString, Int.repr, Nat.repr]

theorem numberOf?_toString {n : Int} (h : n.natAbs < Nat.pow 2 64) :
    numberOf? (toString n).toList = some (ofInt n) := by
  have digits : Decimal.gathered ⟨n.natAbs, 0⟩ = (n.natAbs, 0) := rfl
  rw [toList_toString, numberOf?_positional _ h (fun _ => rfl), digits,
    scaled?_zero h, Option.map_some, ofNat, applySign, ofInt]
  congr 1
  split
  · rename_i negative
    rw [negative, ofRatio_true]
  · rename_i nonneg
    rw [Bool.not_eq_true] at nonneg
    rw [nonneg]

theorem isNumber_toString (n : Int) : IsNumber (toString n).toList := by
  have unsigned : IsUnsigned (Decimal.positional ⟨n.natAbs, 0⟩) :=
    Decimal.positional_isUnsigned fun _ => rfl
  rw [toList_toString]
  by_cases negative : n < 0
  · simp only [negative, decide_true, signText, if_true]
    exact .negative unsigned
  · simp only [negative, decide_false, signText]
    exact .unsigned unsigned

end Json

end MeterWatch
