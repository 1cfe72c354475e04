import MeterWatch.Proofs.Json.Grammar
import MeterWatch.Proofs.Json.Outcome

/-!
# Number literals are read on their own

What becomes of a literal does not depend on the text behind it, as long as that
text does not go on with the number.  A literal that is skipped ends there too.
-/

namespace MeterWatch.Json

/-- A text that does not go on with a number. -/
def EndsNumber (rest : List Char) : Prop :=
  ∀ c ∈ rest.head?, c.isDigit = false ∧ c ≠ '.' ∧ isExponentMark c = false

theorem endsNumber_nil : EndsNumber [] := by simp [EndsNumber]

theorem EndsNumber.not_digit {rest : List Char} (h : EndsNumber rest) :
    startsWithDigit rest = false := by
  cases rest with
  | nil => rfl
  | cons c rest => exact (h c rfl).1

/-! ## Digits -/

theorem isExponentMark_iff (c : Char) :
    isExponentMark c = true ↔ c = 'e' ∨ c = 'E' := by
  simp [isExponentMark]

theorem startsWithDigit_append {digits : List Char} (h : IsDigits digits)
    (rest : List Char) : startsWithDigit (digits ++ rest) = true := by
  obtain ⟨nonempty, all_digits⟩ := h
  cases digits with
  | nil => exact absurd rfl nonempty
  | cons c digits => exact all_digits c List.mem_cons_self

theorem dropDigits_append {digits rest : List Char}
    (all_digits : ∀ c ∈ digits, c.isDigit = true)
    (h : startsWithDigit rest = false) : dropDigits (digits ++ rest) = rest := by
  induction digits with
  | nil =>
      cases rest with
      | nil => rfl
      | cons c rest =>
          have not_digit : c.isDigit = false := h
          simp [dropDigits, not_digit]
  | cons c digits ih =>
      obtain ⟨digit, others⟩ := List.forall_mem_cons.mp all_digits
      rw [List.cons_append, dropDigits, List.dropWhile_cons_of_pos digit]
      exact ih others

theorem gather_append {digits rest : List Char}
    (all_digits : ∀ c ∈ digits, c.isDigit = true)
    (h : startsWithDigit rest = false) (significand : Nat) :
    gather significand (digits ++ rest) =
      ((gather significand digits).1, (gather significand digits).2 ++ rest) := by
  induction digits generalizing significand with
  | nil =>
      cases rest with
      | nil => rfl
      | cons c rest =>
          have not_digit : c.isDigit = false := h
          simp [gather, not_digit]
  | cons c digits ih =>
      obtain ⟨-, others⟩ := List.forall_mem_cons.mp all_digits
      simp only [List.cons_append, gather]
      split
      · exact ih others _
      · rfl

theorem gather_suffix (significand : Nat) (text : List Char) :
    (gather significand text).2 <:+ text := by
  induction text generalizing significand with
  | nil => exact List.suffix_rfl
  | cons c text ih =>
      simp only [gather]
      split
      · exact (ih _).trans (List.suffix_cons c text)
      · exact List.suffix_rfl

theorem gather_all_digits {digits : List Char}
    (all_digits : ∀ c ∈ digits, c.isDigit = true) (significand : Nat) :
    ∀ c ∈ (gather significand digits).2, c.isDigit = true :=
  fun c member => all_digits c ((gather_suffix _ _).subset member)

/-! ## Exponents -/

theorem IsExponent.ends {exponent rest : List Char}
    (h : IsExponent exponent) (ends : EndsNumber rest) :
    ∀ c ∈ (exponent ++ rest).head?, c.isDigit = false ∧ c ≠ '.' := by
  cases h with
  | none => exact fun c first => ⟨(ends c first).1, (ends c first).2.1⟩
  | some mark _ _ =>
      simp only [List.mem_cons, List.not_mem_nil, or_false] at mark
      rcases mark with rfl | rfl <;> rintro c ⟨⟩ <;> decide

theorem IsExponent.not_digit {exponent rest : List Char}
    (h : IsExponent exponent) (ends : EndsNumber rest) :
    startsWithDigit (exponent ++ rest) = false := by
  have first := h.ends ends
  cases text_eq : exponent ++ rest with
  | nil => rfl
  | cons c text => exact (first c (by simp [text_eq])).1

theorem IsExponent.not_point {exponent rest : List Char}
    (h : IsExponent exponent) (ends : EndsNumber rest) (text : List Char) :
    exponent ++ rest ≠ '.' :: text := by
  intro text_eq
  exact (h.ends ends '.' (by simp [text_eq])).2 rfl

theorem exponentSign_append {sign digits : List Char}
    (h : sign ∈ [[], ['+'], ['-']]) (hdigits : IsDigits digits)
    (rest : List Char) :
    exponentSign (sign ++ digits ++ rest) = (sign == ['-'], digits ++ rest) := by
  obtain ⟨nonempty, all_digits⟩ := hdigits
  obtain ⟨c, digits, rfl⟩ := List.exists_cons_of_ne_nil nonempty
  have digit := all_digits c List.mem_cons_self
  simp only [List.mem_cons, List.not_mem_nil, or_false] at h
  rcases h with rfl | rfl | rfl
  · unfold exponentSign
    split
    · rename_i first
      cases first
      simp at digit
    · rename_i first
      cases first
      simp at digit
    · rfl
  · rfl
  · rfl

theorem le_ofDigitChars (digits : List Char) (n : Nat) :
    n ≤ Nat.ofDigitChars 10 digits n := by
  rw [Nat.ofDigitChars_eq_ofDigitChars_zero]
  have scaled := Nat.le_mul_of_pos_left n
    (Nat.pow_pos (by decide : 0 < 10) : 0 < 10 ^ digits.length)
  omega

/-- Either all digits are taken in, or the rest of them is left. -/
theorem exponentDigits_append {digits : List Char}
    (all_digits : ∀ c ∈ digits, c.isDigit = true) {exponent : Nat}
    (start : exponent < exponentLimit) :
    (Nat.ofDigitChars 10 digits exponent < exponentLimit ∧
      ∀ rest, startsWithDigit rest = false →
        exponentDigits exponent (digits ++ rest) =
          .ok (Nat.ofDigitChars 10 digits exponent, rest)) ∨
    exponentLimit ≤ Nat.ofDigitChars 10 digits exponent ∧
      ∃ others, (∀ c ∈ others, c.isDigit = true) ∧ ∀ rest,
        exponentDigits exponent (digits ++ rest) = .error (others ++ rest) := by
  induction digits generalizing exponent with
  | nil =>
      refine .inl ⟨start, fun rest h => ?_⟩
      cases rest with
      | nil => rfl
      | cons c rest =>
          have not_digit : c.isDigit = false := h
          simp [exponentDigits, not_digit]
  | cons c digits ih =>
      obtain ⟨digit, others⟩ := List.forall_mem_cons.mp all_digits
      simp only [List.cons_append, exponentDigits, digit, if_true,
        Nat.ofDigitChars_cons]
      by_cases small : 10 * exponent + (c.toNat - '0'.toNat) < exponentLimit
      · simp only [if_pos small]
        exact ih others small
      · simp only [if_neg small]
        exact .inr ⟨Nat.le_trans (Nat.not_lt.mp small)
          (le_ofDigitChars digits _), digits, others, fun _ => rfl⟩

/-! ## Skipped literals -/

theorem skipOptionalExponent_append {exponent rest : List Char}
    (h : IsExponent exponent) (ends : EndsNumber rest) :
    skipOptionalExponent (exponent ++ rest) = .ok rest := by
  cases h with
  | none =>
      cases rest with
      | nil => rfl
      | cons c rest =>
          simp [skipOptionalExponent, (ends c rfl).2.2]
  | @some mark sign digits hmark hsign hdigits =>
      have marked : isExponentMark mark = true := by
        simpa [isExponentMark_iff] using hmark
      rw [List.cons_append, skipOptionalExponent, if_pos marked, skipExponent,
        exponentSign_append hsign hdigits]
      simp only [startsWithDigit_append hdigits, if_true,
        dropDigits_append hdigits.2 ends.not_digit]

theorem skipFraction_append {fraction exponent rest : List Char}
    (h : IsFraction fraction) (h' : IsExponent exponent)
    (ends : EndsNumber rest) :
    skipFraction (fraction ++ (exponent ++ rest)) = .ok rest := by
  have skipped := skipOptionalExponent_append h' ends
  cases h with
  | none =>
      rw [List.nil_append, skipFraction]
      · exact skipped
      · exact h'.not_point ends
  | some hdigits =>
      simp only [List.cons_append, skipFraction,
        startsWithDigit_append hdigits, if_true,
        dropDigits_append hdigits.2 (h'.not_digit ends), skipped]

theorem IsWhole.isDigits {whole : List Char} (h : IsWhole whole) :
    IsDigits whole := by
  cases h with
  | zero => exact ⟨by simp, by simp⟩
  | positive hdigits _ => exact hdigits

theorem IsFraction.not_digit {fraction exponent rest : List Char}
    (h : IsFraction fraction) (h' : IsExponent exponent)
    (ends : EndsNumber rest) :
    startsWithDigit (fraction ++ (exponent ++ rest)) = false := by
  cases h with
  | none => exact h'.not_digit ends
  | some _ => rfl

theorem skipUnsigned_append {literal rest : List Char} (h : IsUnsigned literal)
    (ends : EndsNumber rest) : skipUnsigned (literal ++ rest) = .ok rest := by
  obtain ⟨whole, fraction, exponent, hwhole, hfraction, hexponent, rfl⟩ := h
  have skipped := skipFraction_append hfraction hexponent ends
  have not_digit := hfraction.not_digit hexponent ends
  rw [List.append_assoc, List.append_assoc]
  cases hwhole with
  | zero =>
      simp only [List.cons_append, List.nil_append, skipUnsigned, not_digit,
        Bool.false_eq_true, if_false, skipped]
  | positive hdigits leading =>
      rw [skipUnsigned]
      · simp only [startsWithDigit_append hdigits, if_true,
          dropDigits_append hdigits.2 not_digit, skipped]
      · intro text text_eq
        obtain ⟨c, others, rfl⟩ := List.exists_cons_of_ne_nil hdigits.1
        cases text_eq
        exact leading rfl

/-! ## Literals that are read -/

/-- What a literal is read as does not depend on the text behind it. -/
def IsLocal {α : Type} (read : Reader α) (literal : List Char) : Prop :=
  ∃ value?, ∀ rest, EndsNumber rest → Reads read (literal ++ rest) value? rest

section Parts

variable (negative : Bool) (significand : Nat)

theorem finish_isLocal (exponent : Int) :
    IsLocal (finish negative significand exponent) [] := by
  refine ⟨(scaled? significand exponent).map fun value =>
    .real (applySign negative value), fun rest _ => ?_⟩
  unfold Reads finish
  cases scaled? significand exponent <;> rfl

theorem exponentPart_isLocal (exponent : Int) {sign digits : List Char}
    (hsign : sign ∈ [[], ['+'], ['-']]) (hdigits : IsDigits digits) :
    IsLocal (exponentPart negative significand exponent) (sign ++ digits) := by
  have nonempty (rest : List Char) : (digits ++ rest).isEmpty = false := by
    simp [hdigits.1]
  rcases exponentDigits_append hdigits.2 (by decide : 0 < exponentLimit) with
    ⟨-, taken⟩ | ⟨-, others, all_digits, left⟩
  · obtain ⟨value?, finished⟩ := finish_isLocal negative significand
      (if sign == ['-'] then exponent - Nat.ofDigitChars 10 digits 0
        else exponent + Nat.ofDigitChars 10 digits 0)
    refine ⟨value?, fun rest ends => ?_⟩
    have read := finished rest ends
    rw [List.nil_append] at read
    unfold Reads exponentPart
    simp only [exponentSign_append hsign hdigits, nonempty,
      startsWithDigit_append hdigits, taken rest ends.not_digit, if_false,
      Bool.false_eq_true, Bool.not_true]
    exact read
  · -- The digits that are left over are dropped, unless they are an error.
    refine ⟨if significand ≠ 0 ∧ sign ≠ ['-'] then none
      else some (.real (applySign negative (.zero false))), fun rest ends => ?_⟩
    unfold Reads exponentPart
    simp only [exponentSign_append hsign hdigits, nonempty,
      startsWithDigit_append hdigits, left rest, if_false, Bool.false_eq_true,
      Bool.not_true, dropDigits_append all_digits ends.not_digit]
    by_cases overflow : significand ≠ 0 ∧ sign ≠ ['-'] <;> simp [overflow]

theorem optionalExponent_isLocal (exponent : Int) {literal : List Char}
    (h : IsExponent literal) :
    IsLocal (optionalExponent negative significand exponent) literal := by
  cases h with
  | none =>
      obtain ⟨value?, finished⟩ := finish_isLocal negative significand exponent
      refine ⟨value?, fun rest ends => ?_⟩
      have read := finished rest ends
      rw [List.nil_append] at read ⊢
      cases rest with
      | nil => exact read
      | cons c rest =>
          unfold Reads
          simp only [optionalExponent, (ends c rfl).2.2, Bool.false_eq_true,
            if_false]
          exact read
  | @some mark sign digits hmark hsign hdigits =>
      have marked : isExponentMark mark = true := by
        simpa [isExponentMark_iff] using hmark
      obtain ⟨value?, read⟩ := exponentPart_isLocal negative significand
        exponent hsign hdigits
      refine ⟨value?, fun rest ends => ?_⟩
      unfold Reads
      simp only [List.cons_append, optionalExponent, marked, if_true]
      exact read rest ends

theorem fractionPart_digits (exponent : Int) {digits : List Char}
    (h : IsDigits digits) {rest : List Char}
    (not_digit : startsWithDigit rest = false) :
    fractionPart negative significand exponent (digits ++ rest) =
      optionalExponent negative (gather significand digits).1
        (exponent - (digits.length - (gather significand digits).2.length))
        rest := by
  have nonempty : (digits ++ rest).isEmpty = false := by simp [h.1]
  have places : ((digits ++ rest).length : Int) -
      ((gather significand digits).2 ++ rest).length =
        digits.length - (gather significand digits).2.length := by
    simp only [List.length_append]
    omega
  simp only [fractionPart, nonempty, Bool.false_eq_true, if_false,
    startsWithDigit_append h, Bool.not_true,
    gather_append h.2 not_digit, places,
    dropDigits_append (gather_all_digits h.2 _) not_digit]

theorem fractionPart_isLocal (exponent : Int) {digits literal : List Char}
    (hdigits : IsDigits digits) (h : IsExponent literal) :
    IsLocal (fractionPart negative significand exponent)
      (digits ++ literal) := by
  obtain ⟨value?, read⟩ := optionalExponent_isLocal negative
    (gather significand digits).1
    (exponent - (digits.length - (gather significand digits).2.length)) h
  refine ⟨value?, fun rest ends => ?_⟩
  unfold Reads
  rw [List.append_assoc,
    fractionPart_digits _ _ _ hdigits (h.not_digit ends)]
  exact read rest ends

theorem afterWhole_mark (dropped : Nat) {mark : Char} (text : List Char)
    (h : isExponentMark mark = true) :
    afterWhole negative significand dropped (mark :: text) =
      optionalExponent negative significand dropped (mark :: text) := by
  have not_point : mark ≠ '.' := by
    rintro rfl
    cases h
  simp [afterWhole, not_point, h]

theorem afterWhole_dropped {dropped : Nat} (h : dropped ≠ 0)
    {text : List Char} (ends : EndsNumber text) :
    afterWhole negative significand dropped text =
      optionalExponent negative significand dropped text := by
  cases text with
  | nil => simp [afterWhole, h]
  | cons c text => simp [afterWhole, (ends c rfl).2.1, h]

theorem afterWhole_whole {text : List Char} (ends : EndsNumber text) :
    afterWhole negative significand 0 text =
      .ok (wholeNumber negative significand, text) := by
  cases text with
  | nil => simp [afterWhole]
  | cons c text =>
      simp [afterWhole, (ends c rfl).2.1, (ends c rfl).2.2]

theorem afterWhole_isLocal (dropped : Nat) {fraction exponent : List Char}
    (h : IsFraction fraction) (h' : IsExponent exponent) :
    IsLocal (afterWhole negative significand dropped)
      (fraction ++ exponent) := by
  cases h with
  | some hdigits =>
      obtain ⟨value?, read⟩ := fractionPart_isLocal negative significand dropped
        hdigits h'
      exact ⟨value?, read⟩
  | none =>
      obtain ⟨value?, read⟩ := optionalExponent_isLocal negative significand
        dropped h'
      rw [List.nil_append]
      cases h' with
      | some hmark hsign hdigits =>
          have marked := (isExponentMark_iff _).mpr (by simpa using hmark)
          refine ⟨value?, fun rest ends => ?_⟩
          unfold Reads
          rw [List.cons_append, afterWhole_mark _ _ _ _ marked]
          exact read rest ends
      | none =>
          rcases Decidable.em (dropped = 0) with rfl | some_dropped
          · refine ⟨some (wholeNumber negative significand),
              fun rest ends => ?_⟩
            unfold Reads
            rw [List.nil_append, afterWhole_whole _ _ ends]
            rfl
          · refine ⟨value?, fun rest ends => ?_⟩
            unfold Reads
            rw [List.nil_append, afterWhole_dropped _ _ some_dropped ends]
            exact read rest ends

end Parts

theorem unsignedNumber_zero (negative : Bool) {rest : List Char}
    (not_digit : startsWithDigit rest = false) :
    unsignedNumber negative ('0' :: rest) = afterWhole negative 0 0 rest := by
  simp [unsignedNumber, not_digit]

theorem unsignedNumber_digits (negative : Bool) {whole rest : List Char}
    (h : IsDigits whole) (leading : whole.head? ≠ some '0')
    (not_digit : startsWithDigit rest = false) :
    unsignedNumber negative (whole ++ rest) =
      afterWhole negative (gather 0 whole).1 (gather 0 whole).2.length
        rest := by
  have gathered := gather_append h.2 not_digit 0
  have dropped := dropDigits_append (gather_all_digits h.2 0) not_digit
  obtain ⟨c, others, rfl⟩ := List.exists_cons_of_ne_nil h.1
  have digit := h.2 c List.mem_cons_self
  rw [List.cons_append] at gathered ⊢
  rw [unsignedNumber]
  · simp only [digit, if_true, gathered, dropped, List.length_append,
      Nat.add_sub_cancel]
  · rintro rfl
    exact leading rfl

theorem unsignedNumber_whole (negative : Bool) {whole rest : List Char}
    (h : IsWhole whole) (not_digit : startsWithDigit rest = false) :
    unsignedNumber negative (whole ++ rest) =
      afterWhole negative (gather 0 whole).1 (gather 0 whole).2.length
        rest := by
  cases h with
  | zero => exact unsignedNumber_zero negative not_digit
  | positive hdigits leading =>
      exact unsignedNumber_digits negative hdigits leading not_digit

theorem unsignedNumber_isLocal (negative : Bool) {literal : List Char}
    (h : IsUnsigned literal) : IsLocal (unsignedNumber negative) literal := by
  obtain ⟨whole, fraction, exponent, hwhole, hfraction, hexponent, rfl⟩ := h
  obtain ⟨value?, read⟩ := afterWhole_isLocal negative (gather 0 whole).1
    (gather 0 whole).2.length hfraction hexponent
  refine ⟨value?, fun rest ends => ?_⟩
  have after := read rest ends
  rw [List.append_assoc] at after
  unfold Reads
  rw [List.append_assoc, List.append_assoc, unsignedNumber_whole _ hwhole
    (hfraction.not_digit hexponent ends)]
  exact after

/-! ## Values of literals -/

/-- The number that a literal stands for, unless it is out of range. -/
def numberOf? (literal : List Char) : Option Binary64 :=
  (readNumber literal).toOption.map Prod.fst

theorem isDigit_not_blank {c : Char} (h : c.isDigit = true) :
    isBlank c = false := by
  refine Bool.eq_false_iff.mpr fun blank => ?_
  simp only [isBlank, Bool.or_eq_true, beq_iff_eq] at blank
  rcases blank with ((rfl | rfl) | rfl) | rfl <;> cases h

theorem readNumber_negative (text : List Char) :
    readNumber ('-' :: text) = (do
      let (number, rest) ← unsignedNumber true text
      return (number.value, rest)) := rfl

theorem readNumber_digit {c : Char} (h : c.isDigit = true) (text : List Char) :
    readNumber (c :: text) = (do
      let (number, rest) ← unsignedNumber false (c :: text)
      return (number.value, rest)) := by
  have not_minus : c ≠ '-' := by
    rintro rfl
    cases h
  simp [readNumber, skipBlanks, isDigit_not_blank h, not_minus,
    startsWithDigit, h]

theorem IsLocal.map {α β : Type} {read : Reader α} {literal : List Char}
    (h : IsLocal read literal) (f : α → β) :
    IsLocal (fun text => do
      let (value, rest) ← read text
      return (f value, rest)) literal := by
  obtain ⟨value?, reads⟩ := h
  refine ⟨value?.map f, fun rest ends => ?_⟩
  have read_eq := reads rest ends
  unfold Reads at read_eq ⊢
  rw [toOption_bind, read_eq]
  cases value? <;> rfl

theorem IsUnsigned.exists_digit {literal : List Char} (h : IsUnsigned literal) :
    ∃ c others, literal = c :: others ∧ c.isDigit = true := by
  obtain ⟨whole, fraction, exponent, hwhole, -, -, rfl⟩ := h
  obtain ⟨nonempty, all_digits⟩ := hwhole.isDigits
  obtain ⟨c, others, rfl⟩ := List.exists_cons_of_ne_nil nonempty
  exact ⟨c, _, rfl, all_digits c List.mem_cons_self⟩

theorem readNumber_isLocal {literal : List Char} (h : IsNumber literal) :
    IsLocal readNumber literal := by
  cases h with
  | unsigned unsigned =>
      obtain ⟨value?, read⟩ := (unsignedNumber_isLocal false unsigned).map
        Number.value
      refine ⟨value?, fun rest ends => ?_⟩
      have here := read rest ends
      obtain ⟨c, others, rfl, digit⟩ := unsigned.exists_digit
      unfold Reads at here ⊢
      rw [List.cons_append, readNumber_digit digit]
      exact here
  | negative unsigned =>
      obtain ⟨value?, read⟩ := (unsignedNumber_isLocal true unsigned).map
        Number.value
      exact ⟨value?, read⟩

theorem readNumber_literal {literal : List Char} (h : IsNumber literal)
    {rest : List Char} (ends : EndsNumber rest) :
    Reads readNumber (literal ++ rest) (numberOf? literal) rest := by
  obtain ⟨value?, read⟩ := readNumber_isLocal h
  have alone := read [] endsNumber_nil
  have value_eq : numberOf? literal = value? := by
    rw [Reads, List.append_nil] at alone
    rw [numberOf?, alone]
    cases value? <;> rfl
  rw [value_eq]
  exact read rest ends

end MeterWatch.Json
