import MeterWatch.Proofs.Json.Decoding
import MeterWatch.Proofs.Json.Skipped

/-!
# What is read is written

Readers accept nothing but spellings of values.  Each of them takes off the
front of a text what skipping takes off, or less, and the values of elements
make up those of lists.
-/

namespace MeterWatch.Json

variable {α : Type}

/-! ## Digits -/

theorem dropDigits_gather (significand : Nat) (text : List Char) :
    dropDigits (gather significand text).2 = dropDigits text := by
  induction text generalizing significand with
  | nil => rfl
  | cons c text ih =>
      simp only [gather]
      split
      · next taken =>
          rw [Bool.and_eq_true] at taken
          rw [ih, dropDigits, dropDigits, List.dropWhile_cons_of_pos taken.1]
      · rfl

theorem dropDigits_of_exponentDigits {exponent size : Nat}
    {text rest : List Char} (h : exponentDigits exponent text = .ok (size, rest)) :
    dropDigits text = rest := by
  induction text generalizing exponent with
  | nil =>
      cases h
      rfl
  | cons c text ih =>
      simp only [exponentDigits] at h
      split at h
      · next digit =>
          split at h
          · rw [dropDigits, List.dropWhile_cons_of_pos digit]
            exact ih h
          · cases h
      · next other =>
          cases h
          exact List.dropWhile_cons_of_neg other

theorem dropDigits_of_exponentDigits_error {exponent : Nat}
    {text rest : List Char} (h : exponentDigits exponent text = .error rest) :
    dropDigits text = dropDigits rest := by
  induction text generalizing exponent with
  | nil => cases h
  | cons c text ih =>
      simp only [exponentDigits] at h
      split at h
      · next digit =>
          rw [dropDigits, List.dropWhile_cons_of_pos digit]
          split at h
          · exact ih h
          · cases h
            rfl
      · cases h

/-! ## Numbers -/

section Parts

variable {negative : Bool} {significand : Nat} {exponent : Int}
  {text rest : List Char} {number : Number}

theorem finish_sound
    (h : finish negative significand exponent text = .ok (number, rest)) :
    text = rest := by
  unfold finish at h
  split at h <;> cases h
  rfl

theorem exponentPart_sound
    (h : exponentPart negative significand exponent text =
      .ok (number, rest)) : skipExponent text = .ok rest := by
  simp only [exponentPart] at h
  split at h
  · cases h
  · split at h
    · cases h
    · next starts =>
        rw [Bool.not_eq_true, Bool.not_eq_false'] at starts
        simp only [skipExponent, if_pos starts]
        split at h
        · next size left taken =>
            rw [dropDigits_of_exponentDigits taken, finish_sound h]
        · next left taken =>
            -- An exponent that is too great for its sum is passed over.
            rw [dropDigits_of_exponentDigits_error taken]
            split at h <;> cases h
            rfl

theorem optionalExponent_sound
    (h : optionalExponent negative significand exponent text =
      .ok (number, rest)) : skipOptionalExponent text = .ok rest := by
  unfold optionalExponent at h
  split at h
  · split at h
    · next marked =>
        rw [skipOptionalExponent, if_pos marked]
        exact exponentPart_sound h
    · next unmarked =>
        rw [skipOptionalExponent, if_neg unmarked, finish_sound h]
  · rw [skipOptionalExponent, ← finish_sound h]

theorem fractionPart_sound
    (h : fractionPart negative significand exponent text =
      .ok (number, rest)) : skipFraction ('.' :: text) = .ok rest := by
  simp only [fractionPart] at h
  split at h
  · cases h
  · split at h
    · cases h
    · next starts =>
        rw [Bool.not_eq_true, Bool.not_eq_false'] at starts
        have skipped := optionalExponent_sound h
        rw [dropDigits_gather] at skipped
        simp only [skipFraction, if_pos starts, skipped]

theorem afterWhole_sound {dropped : Nat}
    (h : afterWhole negative significand dropped text = .ok (number, rest)) :
    skipFraction text = .ok rest := by
  unfold afterWhole at h
  split at h
  · exact fractionPart_sound h
  · next not_point =>
      have unread : skipFraction text = skipOptionalExponent text := by
        unfold skipFraction
        split
        · exact absurd rfl (not_point _)
        · rfl
      rw [unread]
      extract_lets marked at h
      split at h
      · exact optionalExponent_sound h
      · next unmarked =>
          cases h
          rw [Bool.or_eq_true, not_or] at unmarked
          unfold skipOptionalExponent
          split
          · exact if_neg unmarked.1
          · rfl

theorem unsignedNumber_sound
    (h : unsignedNumber negative text = .ok (number, rest)) :
    skipUnsigned text = .ok rest := by
  unfold unsignedNumber at h
  split at h
  · cases h
  · split at h
    · cases h
    · next not_digit =>
        simp only [skipUnsigned, if_neg not_digit, afterWhole_sound h]
  · next c others not_zero =>
      dsimp only at h
      split at h
      · next digit =>
          have starts : startsWithDigit (c :: others) = true := digit
          have skipped := afterWhole_sound h
          rw [dropDigits_gather] at skipped
          unfold skipUnsigned
          split
          · next text_eq => exact (not_zero (List.cons.inj text_eq).1).elim
          · rw [if_pos starts, skipped]
      · cases h

end Parts

/-! ## Scalars -/

/-- Whatever is taken off the front of a text is a value. -/
def Recovers (read : Reader α) : Prop :=
  ∀ ⦃text rest : List Char⦄ ⦃result : α⦄, read text = .ok (result, rest) →
    ∃ value, Written (.value value) text rest

theorem Written.of_skipBlanks {part : Part} {text rest : List Char}
    (h : Written part (skipBlanks text) rest) : Written part text rest :=
  Json.of_skipBlanks (Written part · rest)
    (fun _ isBlank _ written => written.blank isBlank) h

theorem wrongType_ne_ok {expected : String} {text : List Char} {result : α} :
    (wrongType expected text : Except Fault α) ≠ .ok result := by
  intro h
  rw [← toOption_eq_some_iff, toOption_wrongType] at h
  cases h

theorem recovers_readNumber : Recovers readNumber := by
  intro text rest result h
  unfold readNumber at h
  split at h
  · cases h
  · next digits text_eq =>
      obtain ⟨⟨number, left⟩, read, ⟨⟩⟩ := bind_eq_ok_iff.mp h
      obtain ⟨literal, unsigned, rfl⟩ :=
        skipUnsigned_sound (unsignedNumber_sound read)
      refine ⟨.number ('-' :: literal), Written.of_skipBlanks ?_⟩
      rw [text_eq]
      exact .number (.negative unsigned)
  · split at h
    · obtain ⟨⟨number, left⟩, read, ⟨⟩⟩ := bind_eq_ok_iff.mp h
      obtain ⟨literal, unsigned, text_eq⟩ :=
        skipUnsigned_sound (unsignedNumber_sound read)
      refine ⟨.number literal, Written.of_skipBlanks ?_⟩
      rw [text_eq]
      exact .number (.unsigned unsigned)
    · exact absurd h wrongType_ne_ok

theorem recovers_readString : Recovers readString := by
  intro text rest result h
  unfold readString at h
  split at h
  · cases h
  · next text_eq =>
      obtain ⟨⟨content, left⟩, read, ⟨⟩⟩ := bind_eq_ok_iff.mp h
      refine ⟨.string content, Written.of_skipBlanks ?_⟩
      rw [text_eq]
      exact .string (string_sound read)
  · exact absurd h wrongType_ne_ok

theorem recovers_readOptional {read : Reader α} (h : Recovers read) :
    Recovers (readOptional read) := by
  intro text rest result found
  unfold readOptional at found
  split at found
  · next text_eq =>
      obtain ⟨left, passed, ⟨⟩⟩ := bind_eq_ok_iff.mp found
      refine ⟨.null, Written.of_skipBlanks ?_⟩
      rw [text_eq, word_sound passed]
      exact .null
  · obtain ⟨⟨value, left⟩, passed, ⟨⟩⟩ := bind_eq_ok_iff.mp found
    obtain ⟨value, written⟩ := h passed
    exact ⟨value, written.of_skipBlanks⟩

/-! ## Elements -/

theorem endList_sound {text rest : List Char} (h : endList text = .ok rest)
    (first : Bool) : Written (elementsPart first []) text rest := by
  refine Written.of_skipBlanks ?_
  unfold endList at h
  split at h
  · cases h
  · next text_eq =>
      cases h
      rw [text_eq]
      cases first
      · exact .lastElement
      · exact .noElements
  · split at h <;> cases h
  · cases h

theorem nextElement_some {first : Bool} {text element : List Char}
    (h : nextElement first text = .ok (some element)) {value : Value}
    {middle : List Char} (written : Written (.value value) element middle)
    {others : List Value} {rest : List Char}
    (more : Written (.moreElements others) middle rest) :
    Written (elementsPart first (value :: others)) text rest := by
  refine Written.of_skipBlanks ?_
  unfold nextElement at h
  split at h
  · cases h
  · cases h
  · next c behind _ text_eq =>
      rw [text_eq]
      cases first with
      | true =>
          cases h
          exact .firstElement written more
      | false =>
          split at h
          · contradiction
          · split at h
            · next comma =>
                rw [comma]
                split at h
                · cases h
                · cases h
                · cases h
                  exact .nextElement written.of_skipBlanks more
            · cases h

theorem elementsWithin_sound {read : Reader α} (h : Recovers read) {fuel : Nat}
    {first : Bool} {text rest : List Char} {values : List α}
    (found : elementsWithin read fuel first text = .ok (values, rest)) :
    ∃ elements, Written (elementsPart first elements) text rest := by
  induction fuel generalizing first text values with
  | zero => cases found
  | succ fuel ih =>
      rw [elementsWithin] at found
      obtain ⟨next, next_eq, found⟩ := bind_eq_ok_iff.mp found
      cases next with
      | none =>
          obtain ⟨left, ended, ⟨⟩⟩ := bind_eq_ok_iff.mp found
          exact ⟨[], endList_sound ended first⟩
      | some element =>
          obtain ⟨⟨result, middle⟩, here, found⟩ := bind_eq_ok_iff.mp found
          obtain ⟨⟨results, left⟩, behind, ⟨⟩⟩ := bind_eq_ok_iff.mp found
          obtain ⟨value, written⟩ := h here
          obtain ⟨others, more⟩ := ih behind
          exact ⟨value :: others, nextElement_some next_eq written more⟩

theorem openList_sound {expected : String} {text inner : List Char}
    (h : openList expected text = .ok inner) {elements : List Value}
    {rest : List Char} (written : Written (.elements elements) inner rest) :
    Written (.value (.list elements)) text rest := by
  refine Written.of_skipBlanks ?_
  unfold openList at h
  split at h
  · cases h
  · next text_eq =>
      cases h
      rw [text_eq]
      exact .list written
  · exact absurd h wrongType_ne_ok

theorem recovers_readList {read : Reader α} (h : Recovers read) :
    Recovers (readList read) := by
  intro text rest values found
  obtain ⟨inner, opened, found⟩ := bind_eq_ok_iff.mp found
  obtain ⟨elements, written⟩ := elementsWithin_sound h found
  exact ⟨.list elements, openList_sound opened written⟩

/-- An element, with whatever elements are written behind it. -/
theorem elementAt_sound {read : Reader α} (h : Recovers read)
    {expected : String} {index : Nat} {text middle : List Char} {result : α}
    (found : elementAt expected index read text = .ok (result, middle)) :
    ∃ value, ∀ others rest, Written (.moreElements others) middle rest →
      Written (elementsPart (index == 0) (value :: others)) text rest := by
  obtain ⟨next, next_eq, found⟩ := bind_eq_ok_iff.mp found
  cases next with
  | none =>
      obtain ⟨left, -, ⟨⟩⟩ := bind_eq_ok_iff.mp found
  | some element =>
      obtain ⟨value, written⟩ := h found
      exact ⟨value, fun others rest more =>
        nextElement_some next_eq written more⟩

end MeterWatch.Json
