import MeterWatch.Proofs.Json.Skipping

/-!
# What is skipped is written

Whatever the machine gets through is the text of a value.  What a stack of open
containers still asks of a text is a relation of its own, which every step keeps
when it is followed backwards from the end of a run.
-/

namespace MeterWatch.Json

/-! ## Numbers -/

theorem exists_digits {text : List Char} (h : startsWithDigit text = true) :
    ∃ digits, IsDigits digits ∧ text = digits ++ dropDigits text := by
  refine ⟨text.takeWhile Char.isDigit, ⟨?_, List.all_eq_true.mp List.all_takeWhile⟩,
    List.takeWhile_append_dropWhile.symm⟩
  cases text with
  | nil => cases h
  | cons c text =>
      have digit : c.isDigit = true := h
      simp [digit]

theorem exists_sign (text : List Char) :
    ∃ sign ∈ [[], ['+'], ['-']], text = sign ++ (exponentSign text).2 := by
  unfold exponentSign
  split
  · exact ⟨['-'], by simp, rfl⟩
  · exact ⟨['+'], by simp, rfl⟩
  · exact ⟨[], by simp, rfl⟩

theorem skipOptionalExponent_sound {text rest : List Char}
    (h : skipOptionalExponent text = .ok rest) :
    ∃ exponent, IsExponent exponent ∧ text = exponent ++ rest := by
  unfold skipOptionalExponent at h
  split at h
  · next mark text =>
      split at h
      · next marked =>
          unfold skipExponent at h
          dsimp only at h
          split at h
          · next starts =>
              cases h
              obtain ⟨sign, hsign, text_eq⟩ := exists_sign text
              obtain ⟨digits, isDigits, digits_eq⟩ := exists_digits starts
              rw [isExponentMark_iff] at marked
              refine ⟨mark :: (sign ++ digits),
                .some (by simpa using marked) hsign isDigits, ?_⟩
              rw [List.cons_append, List.append_assoc, ← digits_eq, ← text_eq]
          · cases h
      · cases h
        exact ⟨[], .none, rfl⟩
  · cases h
    exact ⟨[], .none, rfl⟩

theorem skipFraction_sound {text rest : List Char}
    (h : skipFraction text = .ok rest) :
    ∃ fraction exponent, IsFraction fraction ∧ IsExponent exponent ∧
      text = fraction ++ (exponent ++ rest) := by
  unfold skipFraction at h
  split at h
  · next text =>
      split at h
      · next starts =>
          obtain ⟨digits, isDigits, digits_eq⟩ := exists_digits starts
          obtain ⟨exponent, isExponent, rest_eq⟩ := skipOptionalExponent_sound h
          refine ⟨'.' :: digits, exponent, .some isDigits, isExponent, ?_⟩
          rw [← rest_eq, List.cons_append, ← digits_eq]
      · cases h
  · obtain ⟨exponent, isExponent, rest_eq⟩ := skipOptionalExponent_sound h
    exact ⟨[], exponent, .none, isExponent, rest_eq⟩

theorem skipUnsigned_sound {text rest : List Char}
    (h : skipUnsigned text = .ok rest) :
    ∃ literal, IsUnsigned literal ∧ text = literal ++ rest := by
  -- Only the whole part depends on whether there is a leading zero.
  obtain ⟨whole, behind, isWhole, text_eq, skipped⟩ : ∃ whole behind,
      IsWhole whole ∧ text = whole ++ behind ∧
        skipFraction behind = .ok rest := by
    unfold skipUnsigned at h
    split at h
    · split at h
      · cases h
      · exact ⟨['0'], _, .zero, rfl, h⟩
    · next not_zero =>
        split at h
        · next starts =>
            obtain ⟨digits, isDigits, digits_eq⟩ := exists_digits starts
            refine ⟨digits, _, .positive isDigits fun leading => ?_,
              digits_eq, h⟩
            obtain ⟨others, rfl⟩ := List.head?_eq_some_iff.mp leading
            exact not_zero _ digits_eq
        · cases h
  obtain ⟨fraction, exponent, isFraction, isExponent, rfl⟩ :=
    skipFraction_sound skipped
  refine ⟨whole ++ (fraction ++ exponent), ⟨whole, fraction, exponent, isWhole,
    isFraction, isExponent, rfl⟩, ?_⟩
  rw [text_eq, List.append_assoc, List.append_assoc]

/-! ## Keys and words -/

theorem word_sound {letters text rest : List Char}
    (h : word letters text = .ok rest) : text = letters ++ rest := by
  induction letters generalizing text with
  | nil =>
      cases h
      rfl
  | cons letter letters ih =>
      cases text with
      | nil => cases h
      | cons c text =>
          rw [word] at h
          split at h
          · next same => rw [same, ih h, List.cons_append]
          · cases h

theorem skipKey_sound {text inner : List Char} (h : skipKey text = .ok inner)
    {rest : List Char} (value : Passed .value inner rest) :
    Passed (.item .object) text rest := by
  refine Passed.skipBlanks ?_
  unfold skipKey at h
  split at h
  · cases h
  · next quoted text_eq =>
      obtain ⟨gap, skipped, h⟩ := bind_eq_ok_iff.mp h
      rw [text_eq]
      split at h
      · cases h
      · next colon =>
          cases h
          exact .member (skipString_sound skipped) colon value
      · cases h
  · cases h

theorem skipToValue_sound {container : Container} {text inner : List Char}
    (h : skipToValue container text = .ok inner) {rest : List Char}
    (value : Passed .value inner rest) :
    Passed (.item container) text rest := by
  cases container with
  | list =>
      cases h
      exact .element value
  | object => exact skipKey_sound h value

/-! ## Steps -/

/-- The containers of a stack are closed one after the other. -/
inductive Closes : List Container → List Char → List Char → Prop where
  | none {rest : List Char} : Closes [] rest rest
  | close {container : Container} {others : List Container}
      {text middle rest : List Char}
      (h : Passed (.more container) text middle)
      (h' : Closes others middle rest) : Closes (container :: others) text rest

/-- What is left when the machine has come to its end from a state. -/
inductive Finishes : SkipState → List Char → Prop where
  | ended {stack : List Container} {text rest : List Char}
      (h : Closes stack text rest) : Finishes ⟨true, stack, text⟩ rest
  | value {stack : List Container} {text middle rest : List Char}
      (h : Passed .value text middle) (h' : Closes stack middle rest) :
      Finishes ⟨false, stack, text⟩ rest

section Steps

variable {container : Container} {stack : List Container}
  {text rest : List Char} {next : SkipState}

theorem skipOpening_sound (h : skipOpening container stack text = .ok next)
    (finishes : Finishes next rest) :
    ∃ middle, Passed (.inside container) text middle ∧
      Closes stack middle rest := by
  unfold skipOpening at h
  split at h
  · cases h
  · next c others text_eq =>
      split at h
      · next closed =>
          cases h
          cases finishes with
          | ended closes =>
              refine ⟨_, Passed.skipBlanks ?_, closes⟩
              rw [text_eq, closed]
              exact .empty
      · obtain ⟨inner, found, ⟨⟩⟩ := bind_eq_ok_iff.mp h
        cases finishes with
        | value value closes =>
            cases closes with
            | close more closes =>
                refine ⟨_, Passed.skipBlanks ?_, closes⟩
                rw [text_eq]
                exact .first (skipToValue_sound found value) more

theorem skipEnd_sound (h : skipEnd container stack text = .ok next)
    (finishes : Finishes next rest) : Closes (container :: stack) text rest := by
  unfold skipEnd at h
  split at h
  · cases h
  · next c others text_eq =>
      split at h
      · next comma =>
          obtain ⟨inner, found, ⟨⟩⟩ := bind_eq_ok_iff.mp h
          cases finishes with
          | value value closes =>
              cases closes with
              | close more closes =>
                  refine .close (Passed.skipBlanks ?_) closes
                  rw [text_eq, comma]
                  exact .next (skipToValue_sound found value) more
      · split at h
        · next closed =>
            cases h
            cases finishes with
            | ended closes =>
                refine .close (Passed.skipBlanks ?_) closes
                rw [text_eq, closed]
                exact .last
        · cases h

theorem finishes_scalar {outcome : Except Fault (List Char)}
    (h : (do return SkipState.mk true stack (← outcome)) = .ok next)
    (finishes : Finishes next rest)
    (passed : ∀ left, outcome = .ok left → Passed .value text left) :
    Finishes ⟨false, stack, text⟩ rest := by
  obtain ⟨left, outcome_eq, ⟨⟩⟩ := bind_eq_ok_iff.mp h
  cases finishes with
  | ended closes => exact .value (passed left outcome_eq) closes

theorem finishes_opened
    (h : skipOpening container stack text = .ok next)
    (finishes : Finishes next rest) :
    Finishes ⟨false, stack, container.opening :: text⟩ rest := by
  obtain ⟨middle, inside, closes⟩ := skipOpening_sound h finishes
  exact .value (.opened inside) closes

theorem Finishes.skipBlanks
    (h : Finishes ⟨false, stack, skipBlanks text⟩ rest) :
    Finishes ⟨false, stack, text⟩ rest := by
  cases h with
  | value value closes => exact .value value.skipBlanks closes

theorem skipStart_sound (h : skipStart stack text = .ok next)
    (finishes : Finishes next rest) : Finishes ⟨false, stack, text⟩ rest := by
  refine Finishes.skipBlanks ?_
  unfold skipStart at h
  dsimp only at h
  split at h
  · cases h
  · next text_eq =>
      rw [text_eq]
      refine finishes_scalar h finishes fun left skipped => ?_
      rw [word_sound skipped]
      exact .null
  · next text_eq =>
      rw [text_eq]
      refine finishes_scalar h finishes fun left skipped => ?_
      rw [word_sound skipped]
      exact .trueWord
  · next text_eq =>
      rw [text_eq]
      refine finishes_scalar h finishes fun left skipped => ?_
      rw [word_sound skipped]
      exact .falseWord
  · next text_eq =>
      rw [text_eq]
      refine finishes_scalar h finishes fun left skipped => ?_
      obtain ⟨literal, unsigned, rfl⟩ := skipUnsigned_sound skipped
      exact .number (.negative unsigned)
  · next text_eq =>
      rw [text_eq]
      exact finishes_scalar h finishes fun left skipped =>
        .string (skipString_sound skipped)
  · next text_eq =>
      rw [text_eq]
      exact finishes_opened h finishes
  · next text_eq =>
      rw [text_eq]
      exact finishes_opened h finishes
  · split at h
    · refine finishes_scalar h finishes fun left skipped => ?_
      obtain ⟨literal, unsigned, text_eq⟩ := skipUnsigned_sound skipped
      rw [text_eq]
      exact .number (.unsigned unsigned)
    · cases h

end Steps

theorem skipWithin_sound {fuel : Nat} {state : SkipState} {rest : List Char}
    (h : skipWithin fuel state = .ok rest) : Finishes state rest := by
  -- The fuel counts the steps that are left, so the last one comes first.
  induction fuel generalizing state with
  | zero => cases h
  | succ fuel ih =>
      obtain ⟨ended, stack, text⟩ := state
      rw [skipWithin] at h
      split at h
      · next isEnded =>
          cases isEnded
          split at h
          · next none =>
              cases none
              cases h
              exact .ended .none
          · next some =>
              cases some
              split at h
              · next step => exact .ended (skipEnd_sound step (ih h))
              · cases h
      · next notEnded =>
          rw [Bool.not_eq_true] at notEnded
          cases notEnded
          split at h
          · next step => exact skipStart_sound step (ih h)
          · cases h

/-- What is skipped is the text of a value. -/
theorem skipValue_sound {text rest : List Char}
    (h : skipValue text = .ok rest) : Passed .value text rest := by
  cases skipWithin_sound h with
  | value value closes =>
      cases closes with
      | none => exact value

end MeterWatch.Json
