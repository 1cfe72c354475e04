import MeterWatch.Proofs.Decimal.Correct
import MeterWatch.Proofs.Decimal.Reread
import MeterWatch.Proofs.Json.Numeral

/-!
# Numbers survive their text

The text of a number is a numeral, or the name of an infinity.  A reader that
rounds numerals correctly gives the same number again, with its sign.
-/

namespace MeterWatch

/-! ## Numerals without exponent -/

namespace Numeral

/-- Positional notation is read as what it stands for. -/
theorem ofText?_positional (negative : Bool) {decimal : Decimal}
    (canonical : decimal.digits = 0 → decimal.exponent = 0) :
    ∃ numeral, ofText? (signText negative ++ decimal.positional) =
        some numeral ∧ numeral.negative = negative ∧
      numeral.decimal.value = decimal.value := by
  rcases lt_or_ge decimal.exponent 0 with below | nonneg
  · have whole := Decimal.wholeDigits_isWhole below
    have fraction := Decimal.fractionDigits_isDigits below
    have exponent_eq : (0 : Int) - decimal.fractionDigits.length =
        decimal.exponent := by
      rw [Decimal.fractionDigits_length]
      omega
    have read := ofText?_literal negative whole.isDigits (.some fraction) .none
    rw [List.append_nil] at read
    rw [Decimal.positional_of_negative below]
    refine ⟨_, read, rfl, ?_⟩
    simp only [Numeral.decimal, List.tail_cons, Decimal.wholeDigits_append,
      digitsValue_eq, Decimal.paddedDigits_value, exponentOf_nil, exponent_eq]
  · obtain ⟨positional_eq, whole⟩ :=
      Decimal.positional_of_nonneg nonneg canonical
    have digits_eq : Nat.ofDigitChars 10 decimal.positional 0 =
        decimal.digits * 10 ^ decimal.exponent.toNat := by
      rw [positional_eq, Nat.ofDigitChars_append,
        Nat.ofDigitChars_ten_toDigits, Nat.ofDigitChars_replicate_zero,
        Nat.mul_comm]
    have exponent_eq : (0 : Int) + decimal.exponent.toNat =
        decimal.exponent := by omega
    have read := ofText?_literal negative whole.isDigits .none .none
    rw [List.append_nil, List.append_nil] at read
    refine ⟨_, read, rfl, ?_⟩
    simp only [Numeral.decimal, List.tail_nil, List.append_nil, digitsValue_eq,
      digits_eq, List.length_nil, Nat.cast_zero, sub_zero, exponentOf_nil]
    rw [Decimal.value_shift, exponent_eq]

end Numeral

/-! ## Reading numbers -/

namespace Binary64

/-- Reads a number as it is displayed, with correct rounding. -/
def readNearest? (text : List Char) : Option Binary64 :=
  if text = "inf".toList then some (.infinite false)
  else if text = "-inf".toList then some (.infinite true)
  else (Numeral.ofText? text).map Numeral.value

theorem positional_ne_inf (negative : Bool) (rank : Nat) :
    signText negative ++ (decimal rank).positional ≠ "inf".toList ∧
      signText negative ++ (decimal rank).positional ≠ "-inf".toList := by
  obtain ⟨c, others, text_eq, digit⟩ :=
    (Decimal.positional_isUnsigned (decimal_canonical rank)).exists_digit
  have other : c ≠ 'i' := by
    rintro rfl
    cases digit
  have minus : c ≠ '-' := by
    rintro rfl
    cases digit
  rw [text_eq]
  cases negative <;> simp [signText, other, minus]

theorem readNearest?_plain {number : Binary64} (h : number ≠ .nan) :
    readNearest? number.plain.toList = some number := by
  cases number with
  | nan => exact absurd rfl h
  | infinite negative => cases negative <;> decide
  | finite negative rank rank_lt =>
      obtain ⟨not_inf, not_negative_inf⟩ := positional_ne_inf negative rank
      obtain ⟨numeral, read, rfl, value_eq⟩ :=
        Numeral.ofText?_positional negative (decimal_canonical rank)
      rw [plain_toList, readNearest?, if_neg not_inf, if_neg not_negative_inf,
        read, Option.map_some, Numeral.value, ofDecimal_eq_ofRank,
        rankOfDecimal_congr value_eq, rankOfDecimal_decimal,
        ofRank_of_lt _ rank_lt]

end Binary64

end MeterWatch
