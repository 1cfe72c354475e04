import MeterWatch.Decimal.Numeral
import MeterWatch.Proofs.Json.Positional

/-!
# Number literals are numerals

Every number literal is a numeral, with a decimal that it stands for.  What the
reader makes of it depends on the numeral alone: on the digits that fit into a
significand, on the exponent they are left with, and on the size of the exponent
that is written behind them.
-/

namespace MeterWatch

open Json

theorem digitsValue_eq (digits : List Char) :
    digitsValue digits = Nat.ofDigitChars 10 digits 0 := rfl

namespace Numeral

/-! ## Parts of a literal -/

theorem span_digits {digits rest : List Char}
    (all_digits : ∀ c ∈ digits, c.isDigit = true)
    (ends : ∀ c ∈ rest.head?, c.isDigit = false) :
    (digits ++ rest).span Char.isDigit = (digits, rest) := by
  rw [List.span_eq_takeWhile_dropWhile,
    List.takeWhile_append_of_pos all_digits,
    List.dropWhile_append_of_pos all_digits]
  cases rest with
  | nil => simp
  | cons c rest =>
      have other : c.isDigit = false := ends c rfl
      simp [other]

theorem splitSign_digits (negative : Bool) {c : Char}
    (digit : c.isDigit = true) (text : List Char) :
    splitSign (signText negative ++ c :: text) = (negative, c :: text) := by
  cases negative with
  | true => rfl
  | false =>
      have minus : c ≠ '-' := by
        rintro rfl
        cases digit
      have plus : c ≠ '+' := by
        rintro rfl
        cases digit
      simp [signText, splitSign, minus, plus]

/-- The number behind the mark of an exponent. -/
def exponentOf (exponent : List Char) : Int := (exponent? exponent).getD 0

@[simp] theorem exponentOf_nil : exponentOf [] = 0 := rfl

theorem exponent?_some {mark : Char} {sign digits : List Char}
    (hmark : mark ∈ ['e', 'E']) (hsign : sign ∈ [[], ['+'], ['-']])
    (h : IsDigits digits) :
    exponent? (mark :: (sign ++ digits)) =
      some (if sign = ['-'] then -(Nat.ofDigitChars 10 digits 0 : Int)
        else Nat.ofDigitChars 10 digits 0) := by
  have marked : isExponentMark mark = true := by
    simpa [isExponentMark] using hmark
  have all_digits : digits.all Char.isDigit = true := List.all_eq_true.mpr h.2
  have nonempty : digits.isEmpty = false := by simp [h.1]
  obtain ⟨c, others, rfl⟩ := List.exists_cons_of_ne_nil h.1
  have split := splitSign_digits false (h.2 c List.mem_cons_self) others
  simp only [List.mem_cons, List.not_mem_nil, or_false] at hsign
  rcases hsign with rfl | rfl | rfl
  · rw [signText, if_neg Bool.false_ne_true, List.nil_append] at split
    simp [exponent?, split, marked, all_digits, digitsValue_eq]
  · simp [exponent?, splitSign, marked, all_digits, digitsValue_eq]
  · simp [exponent?, splitSign, marked, all_digits, digitsValue_eq]

theorem exponent?_eq {exponent : List Char} (h : IsExponent exponent) :
    exponent? exponent = some (exponentOf exponent) := by
  unfold exponentOf
  cases h with
  | none => rfl
  | some hmark hsign hdigits =>
      rw [exponent?_some hmark hsign hdigits, Option.getD_some]

theorem splitFraction_append {fraction exponent : List Char}
    (h : IsFraction fraction) (h' : IsExponent exponent) :
    splitFraction (fraction ++ exponent) = (fraction.tail, exponent) := by
  have first := h'.ends endsNumber_nil
  rw [List.append_nil] at first
  cases h with
  | none =>
      rw [List.nil_append]
      unfold splitFraction
      split
      · exact absurd rfl (first '.' rfl).2
      · rfl
  | some hdigits => exact span_digits hdigits.2 fun c head => (first c head).1

theorem ofText?_literal (negative : Bool)
    {whole fraction exponent : List Char} (hwhole : IsDigits whole)
    (hfraction : IsFraction fraction) (hexponent : IsExponent exponent) :
    ofText? (signText negative ++ (whole ++ (fraction ++ exponent))) =
      some ⟨negative, whole, fraction.tail, exponentOf exponent⟩ := by
  have ends : ∀ c ∈ (fraction ++ exponent).head?, c.isDigit = false := by
    cases hfraction with
    | none =>
        have first := hexponent.ends endsNumber_nil
        rw [List.append_nil] at first
        exact fun c head => (first c head).1
    | some _ =>
        rintro c ⟨⟩
        rfl
  have digits := span_digits hwhole.2 ends
  obtain ⟨c, others, rfl⟩ := List.exists_cons_of_ne_nil hwhole.1
  rw [List.cons_append] at digits ⊢
  simp only [ofText?, splitSign_digits negative
    (hwhole.2 c List.mem_cons_self), digits,
    splitFraction_append hfraction hexponent, exponent?_eq hexponent]
  rfl

end Numeral

namespace Json

/-- The decimal that a literal stands for, without its sign. -/
def decimalOf? (literal : List Char) : Option Decimal :=
  (Numeral.ofText? literal).map Numeral.decimal

/-! ## Exponents -/

/-- An exponent of more than 31 bits is not added; it stands for zero or for
a number that is out of range. -/
def scaledBy? (significand : Nat) (exponent marked : Int) : Option Binary64 :=
  if marked.natAbs < exponentLimit then scaled? significand (exponent + marked)
  else if significand ≠ 0 ∧ 0 < marked then none
  else some (.zero false)

@[simp] theorem valueOf?_real (value : Binary64) (rest : List Char) :
    valueOf? (.ok (.real value, rest)) = some value := rfl

@[simp] theorem valueOf?_faultBefore (reason : Reason) (rest : List Char) :
    valueOf? (faultBefore reason rest) = none := rfl

section Parts

variable (negative : Bool) (significand : Nat) (exponent : Int)

theorem exponentPart_value {sign digits : List Char}
    (hsign : sign ∈ [[], ['+'], ['-']]) (hdigits : IsDigits digits) :
    valueOf? (exponentPart negative significand exponent (sign ++ digits)) =
      (scaledBy? significand exponent
        (if sign = ['-'] then -(Nat.ofDigitChars 10 digits 0 : Int)
          else Nat.ofDigitChars 10 digits 0)).map (applySign negative) := by
  have sign_eq := exponentSign_append hsign hdigits []
  have first := startsWithDigit_append hdigits []
  have nonempty : digits.isEmpty = false := by simp [hdigits.1]
  rw [List.append_nil, List.append_nil] at sign_eq
  rw [List.append_nil] at first
  rcases exponentDigits_append hdigits.2 (by decide : 0 < exponentLimit) with
    ⟨small, taken⟩ | ⟨large, others, -, left⟩
  · have read := taken [] rfl
    rw [List.append_nil] at read
    simp only [exponentPart, sign_eq, nonempty, first, read, Bool.not_true,
      Bool.false_eq_true, if_false, finish_value]
    by_cases down : sign = ['-']
    · simp [down, scaledBy?, small, sub_eq_add_neg]
    · simp [down, scaledBy?, small]
  · have read := left []
    rw [List.append_nil, List.append_nil] at read
    have positive : 0 < Nat.ofDigitChars 10 digits 0 :=
      Nat.lt_of_lt_of_le (by decide) large
    have not_small := Nat.not_lt.mpr large
    simp only [exponentPart, sign_eq, nonempty, first, read, Bool.not_true,
      Bool.false_eq_true, if_false]
    by_cases down : sign = ['-']
    · simp [down, scaledBy?, not_small]
    · by_cases zero : significand = 0 <;>
        simp [down, zero, scaledBy?, not_small, positive]

theorem optionalExponent_value {literal : List Char} (h : IsExponent literal) :
    valueOf? (optionalExponent negative significand exponent literal) =
      (scaledBy? significand exponent (Numeral.exponentOf literal)).map
        (applySign negative) := by
  cases h with
  | none =>
      rw [optionalExponent, finish_value, Numeral.exponentOf_nil, scaledBy?,
        if_pos (by decide), add_zero]
  | @some mark sign digits hmark hsign hdigits =>
      have marked := (isExponentMark_iff mark).mpr (by simpa using hmark)
      rw [optionalExponent, if_pos marked, exponentPart_value _ _ _ hsign
        hdigits, Numeral.exponentOf,
        Numeral.exponent?_some hmark hsign hdigits, Option.getD_some]

theorem afterWhole_value {significand : Nat}
    (h : significand < significandLimit) (dropped : Nat)
    {fraction literal : List Char} (hfraction : IsFraction fraction)
    (hliteral : IsExponent literal) :
    valueOf? (afterWhole negative significand dropped (fraction ++ literal)) =
      (scaledBy? (gather significand fraction.tail).1
        (dropped - (fraction.tail.length -
          (gather significand fraction.tail).2.length))
        (Numeral.exponentOf literal)).map (applySign negative) := by
  cases hfraction with
  | @some digits hdigits =>
      have ends := hliteral.not_digit endsNumber_nil
      rw [List.append_nil] at ends
      change valueOf? (fractionPart negative significand dropped
        (digits ++ literal)) = _
      rw [fractionPart_digits _ _ _ hdigits ends]
      exact optionalExponent_value _ _ _ hliteral
  | none =>
      have unread := optionalExponent_value negative significand dropped
        hliteral
      simp only [List.nil_append, List.tail_nil, gather_nil, List.length_nil,
        sub_self, sub_zero]
      rw [← unread]
      cases hliteral with
      | some hmark hsign hdigits =>
          have marked := (isExponentMark_iff _).mpr (by simpa using hmark)
          rw [afterWhole_mark _ _ _ _ marked]
      | none =>
          -- A whole number of 64 bits is kept as such, which is what scaling by
          -- one gives, too.
          rcases Decidable.em (dropped = 0) with rfl | some_dropped
          · rw [afterWhole_whole _ _ endsNumber_nil, optionalExponent,
              finish_value, Nat.cast_zero, scaled?_zero h]
            exact congrArg some (wholeNumber_value negative _)
          · rw [afterWhole_dropped _ _ some_dropped endsNumber_nil]

end Parts

/-! ## Literals -/

/-- The digits that are gathered, and the exponent that is left for them. -/
def gathered (whole fraction : List Char) : Nat × Int :=
  let (first, dropped) := gather 0 whole
  let (significand, left) := gather first fraction
  (significand, dropped.length - (fraction.length - left.length))

/-- What a numeral is read as, if it is in range. -/
def reading? (numeral : Numeral) : Option Binary64 :=
  let (significand, exponent) := gathered numeral.whole numeral.fraction
  (scaledBy? significand exponent numeral.exponent).map
    (applySign numeral.negative)

theorem unsignedNumber_value (negative : Bool)
    {whole fraction exponent : List Char} (hwhole : IsWhole whole)
    (hfraction : IsFraction fraction) (hexponent : IsExponent exponent) :
    valueOf? (unsignedNumber negative (whole ++ (fraction ++ exponent))) =
      reading? ⟨negative, whole, fraction.tail,
        Numeral.exponentOf exponent⟩ := by
  have ends := hfraction.not_digit hexponent endsNumber_nil
  rw [List.append_nil] at ends
  rw [unsignedNumber_whole negative hwhole ends]
  exact afterWhole_value negative (gather_lt (by decide) whole) _ hfraction
    hexponent

/-- Number literals are numerals, and are read as such. -/
theorem IsNumber.exists_numeral {literal : List Char} (h : IsNumber literal) :
    ∃ numeral, Numeral.ofText? literal = some numeral ∧
      numberOf? literal = reading? numeral ∧
      (∀ c ∈ numeral.whole ++ numeral.fraction, c.isDigit = true) ∧
      numeral.whole.length + numeral.fraction.length ≤ literal.length := by
  obtain ⟨negative, unsigned, rfl, unsigned_number⟩ :
      ∃ negative unsigned, literal = signText negative ++ unsigned ∧
        IsUnsigned unsigned := by
    cases h with
    | unsigned h => exact ⟨false, literal, rfl, h⟩
    | @negative unsigned h => exact ⟨true, unsigned, rfl, h⟩
  have read := numberOf?_sign negative unsigned_number
  obtain ⟨whole, fraction, exponent, hwhole, hfraction, hexponent, rfl⟩ :=
    unsigned_number
  refine ⟨_, Numeral.ofText?_literal negative hwhole.isDigits hfraction
    hexponent, ?_, ?_, ?_⟩
  · rw [read, unsignedNumber_value negative hwhole hfraction hexponent]
  · intro c member
    rcases List.mem_append.mp member with digit | digit
    · exact hwhole.isDigits.2 c digit
    · cases hfraction with
      | none => cases digit
      | some hdigits => exact hdigits.2 c digit
  · simp only [List.length_append, List.length_tail]
    omega

end Json

end MeterWatch
