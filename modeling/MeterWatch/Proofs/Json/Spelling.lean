import MeterWatch.Proofs.Json.Grammar
import MeterWatch.Proofs.Json.Outcome
import Mathlib.Data.Char

/-!
# Spelled strings are read

However the characters of a string are spelled, they are read back, and the
reader stops behind the closing quote.  A string that is skipped ends there too.
-/

namespace MeterWatch.Json

/-! ## Plain characters -/

theorem Spelled.plainly {content text rest : List Char}
    (h : Spelled content text rest) (row : List Char)
    (plain : ∀ c ∈ row, c ≠ '"' ∧ c ≠ '\\' ∧ 0x20 ≤ c.toNat) :
    Spelled (row ++ content) (row ++ text) rest := by
  induction row with
  | nil => exact h
  | cons c row ih =>
      obtain ⟨⟨notQuote, notEscape, notControl⟩, others⟩ :=
        List.forall_mem_cons.mp plain
      exact .plain notQuote notEscape notControl (ih others)

theorem spelled_plain (content : List Char)
    (plain : ∀ c ∈ content, c ≠ '"' ∧ c ≠ '\\' ∧ 0x20 ≤ c.toNat)
    (rest : List Char) : Spelled content (content ++ '"' :: rest) rest := by
  have closed : Spelled [] ('"' :: rest) rest := .close
  have spelled := closed.plainly content plain
  rwa [List.append_nil] at spelled

/-! ## Short escapes -/

theorem escapes_short {letter c : Char} (h : (letter, c) ∈ shortEscapes)
    (rest : List Char) :
    escape (letter :: rest) = .ok (c, rest) ∧
      skipEscape (letter :: rest) = .ok rest := by
  simp only [shortEscapes, List.mem_cons, Prod.mk.injEq, List.not_mem_nil,
    or_false] at h
  rcases h with ⟨rfl, rfl⟩ | ⟨rfl, rfl⟩ | ⟨rfl, rfl⟩ | ⟨rfl, rfl⟩ |
    ⟨rfl, rfl⟩ | ⟨rfl, rfl⟩ | ⟨rfl, rfl⟩ | ⟨rfl, rfl⟩ <;> exact ⟨rfl, rfl⟩

/-! ## Numbered escapes -/

theorem IsUnit.exists_digits {unit : Nat} {text rest : List Char}
    (h : IsUnit unit text rest) :
    ∃ digits, text = '\\' :: 'u' :: digits ∧ rest.length < digits.length ∧
      hexUnit digits = .ok (unit, rest) := by
  cases h with
  | @digits first second third fourth _ hex value =>
      refine ⟨first :: second :: third :: fourth :: rest, rfl, ?_, ?_⟩
      · simp only [List.length_cons]
        omega
      · have all_hex := List.all_eq_true.mpr hex
        simp only [hexUnit, all_hex, if_true, value]

theorem isTrailingSurrogate_iff (unit : Nat) :
    isTrailingSurrogate unit = true ↔ 0xDC00 ≤ unit ∧ unit ≤ 0xDFFF := by
  simp [isTrailingSurrogate]

theorem isLeadingSurrogate_iff (unit : Nat) :
    isLeadingSurrogate unit = true ↔ 0xD800 ≤ unit ∧ unit ≤ 0xDBFF := by
  simp [isLeadingSurrogate]

theorem toNat_not_surrogate (c : Char) : c.toNat < 0xD800 ∨ 0xDFFF < c.toNat :=
  c.valid.imp_right And.left

theorem escape_unit {c : Char} {digits rest : List Char}
    (h : hexUnit digits = .ok (c.toNat, rest)) :
    escape ('u' :: digits) = .ok (c, rest) := by
  have not_surrogate := toNat_not_surrogate c
  have not_trailing : ¬ isTrailingSurrogate c.toNat = true := by
    rw [isTrailingSurrogate_iff]
    omega
  have not_leading : ¬ isLeadingSurrogate c.toNat = true := by
    rw [isLeadingSurrogate_iff]
    omega
  change numberedEscape digits = _
  rw [numberedEscape, h, ok_bind]
  simp only [if_neg not_trailing, if_neg not_leading, Char.ofNat_toNat]

theorem escape_pair {c : Char} {leading trailing : Nat}
    {digits digits' rest : List Char} (leading_lt : leading < 0x400)
    (trailing_lt : trailing < 0x400)
    (value : c.toNat = 0x10000 + 0x400 * leading + trailing)
    (h : hexUnit digits = .ok (0xD800 + leading, '\\' :: 'u' :: digits'))
    (h' : hexUnit digits' = .ok (0xDC00 + trailing, rest)) :
    escape ('u' :: digits) = .ok (c, rest) := by
  have not_trailing : ¬ isTrailingSurrogate (0xD800 + leading) = true := by
    rw [isTrailingSurrogate_iff]
    omega
  have is_leading : isLeadingSurrogate (0xD800 + leading) = true := by
    rw [isLeadingSurrogate_iff]
    omega
  have is_trailing : isTrailingSurrogate (0xDC00 + trailing) = true := by
    rw [isTrailingSurrogate_iff]
    omega
  have joined : joinSurrogates (0xD800 + leading) (0xDC00 + trailing) = c := by
    rw [joinSurrogates, Nat.add_sub_cancel_left, Nat.add_sub_cancel_left,
      Nat.mul_comm, ← value, Char.ofNat_toNat]
  change numberedEscape digits = _
  rw [numberedEscape, h, ok_bind]
  simp only [if_neg not_trailing, if_pos is_leading, trailingEscape]
  rw [h', ok_bind]
  simp only [if_pos is_trailing, joined]

theorem skipEscape_unit {unit : Nat} {digits rest : List Char}
    (h : hexUnit digits = .ok (unit, rest)) :
    skipEscape ('u' :: digits) = .ok rest := by
  simp [skipEscape, h]

/-! ## Strings -/

theorem Spelled.length_lt {content text rest : List Char}
    (h : Spelled content text rest) : rest.length < text.length := by
  induction h with
  | close => exact Nat.lt_succ_self _
  | plain _ _ _ _ ih => exact Nat.lt_succ_of_lt ih
  | short _ _ ih =>
      simp only [List.length_cons]
      omega
  | unit escape _ ih =>
      obtain ⟨digits, rfl, shorter, -⟩ := escape.exists_digits
      simp only [List.length_cons]
      omega
  | pair escape escape' _ _ _ _ ih =>
      obtain ⟨digits, rfl, shorter, -⟩ := escape.exists_digits
      obtain ⟨digits', rfl, shorter', -⟩ := escape'.exists_digits
      simp only [List.length_cons] at shorter ⊢
      omega

section Steps

variable (fuel : Nat) (reversed : List Char) {c : Char} {text rest : List Char}

theorem stringWithin_close :
    stringWithin (fuel + 1) reversed ('"' :: rest) =
      .ok (reversed.reverse, rest) := by
  simp [stringWithin]

theorem stringWithin_plain (notQuote : c ≠ '"') (notEscape : c ≠ '\\')
    (notControl : 0x20 ≤ c.toNat) :
    stringWithin (fuel + 1) reversed (c :: rest) =
      stringWithin fuel (c :: reversed) rest := by
  have control : isControl c = false := by simpa [isControl] using notControl
  simp [stringWithin, notQuote, notEscape, control]

theorem stringWithin_escape (h : escape text = .ok (c, rest)) :
    stringWithin (fuel + 1) reversed ('\\' :: text) =
      stringWithin fuel (c :: reversed) rest := by
  simp [stringWithin, h]

theorem skipStringWithin_close :
    skipStringWithin (fuel + 1) ('"' :: rest) = .ok rest := by
  simp [skipStringWithin]

theorem skipStringWithin_plain (notQuote : c ≠ '"') (notEscape : c ≠ '\\')
    (notControl : 0x20 ≤ c.toNat) :
    skipStringWithin (fuel + 1) (c :: rest) = skipStringWithin fuel rest := by
  have control : isControl c = false := by simpa [isControl] using notControl
  simp [skipStringWithin, notQuote, notEscape, control]

theorem skipStringWithin_escape (h : skipEscape text = .ok rest) :
    skipStringWithin (fuel + 1) ('\\' :: text) =
      skipStringWithin fuel rest := by
  simp [skipStringWithin, h]

end Steps

/-- Reading takes one step for each character and one for the quote. -/
theorem stringWithin_spelled {content text rest : List Char}
    (h : Spelled content text rest) {fuel : Nat}
    (enough : content.length < fuel) (reversed : List Char) :
    stringWithin fuel reversed text =
      .ok (reversed.reverse ++ content, rest) := by
  induction h generalizing fuel reversed with
  | close =>
      obtain ⟨fuel, rfl, left⟩ := exists_step enough
      rw [stringWithin_close, List.append_nil]
  | plain notQuote notEscape notControl _ ih =>
      obtain ⟨fuel, rfl, left⟩ := exists_step enough
      rw [stringWithin_plain _ _ notQuote notEscape notControl, ih left]
      simp
  | short short _ ih =>
      obtain ⟨fuel, rfl, left⟩ := exists_step enough
      rw [stringWithin_escape _ _ (escapes_short short _).1, ih left]
      simp
  | unit unit _ ih =>
      obtain ⟨digits, rfl, -, read⟩ := unit.exists_digits
      obtain ⟨fuel, rfl, left⟩ := exists_step enough
      rw [stringWithin_escape _ _ (escape_unit read), ih left]
      simp
  | pair unit unit' leading_lt trailing_lt value _ ih =>
      obtain ⟨digits, rfl, -, read⟩ := unit.exists_digits
      obtain ⟨digits', rfl, -, read'⟩ := unit'.exists_digits
      obtain ⟨fuel, rfl, left⟩ := exists_step enough
      have escaped := escape_pair leading_lt trailing_lt value read read'
      rw [stringWithin_escape _ _ escaped, ih left]
      simp

theorem Spelled.length_content_lt {content text rest : List Char}
    (h : Spelled content text rest) : content.length < text.length := by
  induction h with
  | close => exact Nat.succ_pos _
  | plain _ _ _ _ ih => exact Nat.succ_lt_succ ih
  | short _ _ ih =>
      simp only [List.length_cons]
      omega
  | unit escape _ ih =>
      obtain ⟨digits, rfl, shorter, -⟩ := escape.exists_digits
      simp only [List.length_cons]
      omega
  | pair escape escape' _ _ _ _ ih =>
      obtain ⟨digits, rfl, shorter, -⟩ := escape.exists_digits
      obtain ⟨digits', rfl, shorter', -⟩ := escape'.exists_digits
      simp only [List.length_cons] at shorter ⊢
      omega

theorem string_spelled {content text rest : List Char}
    (h : Spelled content text rest) : string text = .ok (content, rest) :=
  stringWithin_spelled h (Nat.lt_succ_of_lt h.length_content_lt) []

/-! ## Skipped strings -/

theorem Spelled.skimmed {content text rest : List Char}
    (h : Spelled content text rest) : Skimmed text rest := by
  induction h with
  | close => exact .close
  | plain notQuote notEscape notControl _ ih =>
      exact .plain notQuote notEscape notControl ih
  | short escape _ ih => exact .short escape ih
  | unit escape _ ih => exact .unit escape ih
  | pair escape escape' _ _ _ _ ih => exact .unit escape (.unit escape' ih)

theorem Skimmed.length_lt {text rest : List Char} (h : Skimmed text rest) :
    rest.length < text.length := by
  induction h with
  | close => exact Nat.lt_succ_self _
  | plain _ _ _ _ ih => exact Nat.lt_succ_of_lt ih
  | short _ _ ih =>
      simp only [List.length_cons]
      omega
  | unit escape _ ih =>
      obtain ⟨digits, rfl, shorter, -⟩ := escape.exists_digits
      simp only [List.length_cons]
      omega

theorem skipStringWithin_skimmed {text rest : List Char}
    (h : Skimmed text rest) {fuel : Nat} (enough : text.length < fuel) :
    skipStringWithin fuel text = .ok rest := by
  induction h generalizing fuel with
  | close =>
      obtain ⟨fuel, rfl, left⟩ := exists_step enough
      exact skipStringWithin_close _
  | plain notQuote notEscape notControl _ ih =>
      obtain ⟨fuel, rfl, left⟩ := exists_step enough
      rw [skipStringWithin_plain _ notQuote notEscape notControl, ih left]
  | short short _ ih =>
      obtain ⟨fuel, rfl, left⟩ := exists_step enough
      simp only [List.length_cons] at left
      rw [skipStringWithin_escape _ (escapes_short short _).2, ih (by omega)]
  | unit unit _ ih =>
      obtain ⟨digits, rfl, shorter, read⟩ := unit.exists_digits
      obtain ⟨fuel, rfl, left⟩ := exists_step enough
      simp only [List.length_cons] at left
      rw [skipStringWithin_escape _ (skipEscape_unit read), ih (by omega)]

theorem skipString_skimmed {text rest : List Char} (h : Skimmed text rest) :
    skipString text = .ok rest :=
  skipStringWithin_skimmed h (Nat.lt_succ_self _)

/-! ## Escapes that are read -/

theorem hexUnit_sound {text rest : List Char} {unit : Nat}
    (h : hexUnit text = .ok (unit, rest)) :
    IsUnit unit ('\\' :: 'u' :: text) rest := by
  unfold hexUnit at h
  split at h
  · dsimp only at h
    split at h
    · next all_hex =>
        cases h
        exact .digits (List.all_eq_true.mp all_hex) rfl
    · cases h
  · split at h <;> cases h

theorem hexDigitValue?_lt (c : Char) : (hexDigitValue? c).getD 0 < 16 := by
  unfold hexDigitValue?
  split
  · next digit =>
      have high : c.toNat ≤ 57 := (Char.isDigit_iff_toNat.mp digit).2
      have zero : '0'.toNat = 48 := rfl
      rw [Option.getD_some]
      omega
  · split
    · next lower =>
        have high : c.toNat ≤ 102 := lower.2
        have first : 'a'.toNat = 97 := rfl
        rw [Option.getD_some]
        omega
    · split
      · next upper =>
          have high : c.toNat ≤ 70 := upper.2
          have first : 'A'.toNat = 65 := rfl
          rw [Option.getD_some]
          omega
      · decide

theorem IsUnit.lt {unit : Nat} {text rest : List Char}
    (h : IsUnit unit text rest) : unit < 0x10000 := by
  cases h with
  | @digits first second third fourth _ hex value =>
      have first_lt := hexDigitValue?_lt first
      have second_lt := hexDigitValue?_lt second
      have third_lt := hexDigitValue?_lt third
      have fourth_lt := hexDigitValue?_lt fourth
      simp only [hexValue, List.foldl_cons, List.foldl_nil] at value
      omega

theorem toNat_ofNat {code : Nat} (h : code.isValidChar) :
    (Char.ofNat code).toNat = code := by
  rw [Char.ofNat, dif_pos h]
  rfl

theorem simpleEscape?_sound {letter c : Char}
    (h : simpleEscape? letter = some c) : (letter, c) ∈ shortEscapes := by
  unfold simpleEscape? at h
  split at h <;> cases h <;> decide

theorem trailingEscape_sound {leading : Nat} {text middle : List Char}
    {c : Char} (h : trailingEscape leading text = .ok (c, middle)) :
    ∃ trailing, IsUnit trailing text middle ∧
      isTrailingSurrogate trailing = true ∧
      c = joinSurrogates leading trailing := by
  unfold trailingEscape at h
  split at h
  · cases h
  · cases h
  · next digits =>
      obtain ⟨⟨trailing, inner⟩, unit, h⟩ := bind_eq_ok_iff.mp h
      dsimp only at h
      split at h
      · next isTrailing =>
          rw [Except.ok.injEq, Prod.mk.injEq] at h
          obtain ⟨joined, rfl⟩ := h
          exact ⟨trailing, hexUnit_sound unit, isTrailing, joined.symm⟩
      · cases h
  · cases h
  · cases h

theorem joinSurrogates_toNat {leading trailing : Nat}
    (leading_lt : leading < 0x400) (trailing_lt : trailing < 0x400) :
    (joinSurrogates (0xD800 + leading) (0xDC00 + trailing)).toNat =
      0x10000 + 0x400 * leading + trailing := by
  have valid : (0x10000 + leading * 0x400 + trailing).isValidChar := by
    rw [Nat.isValidChar]
    omega
  rw [joinSurrogates, Nat.add_sub_cancel_left, Nat.add_sub_cancel_left,
    toNat_ofNat valid, Nat.mul_comm]

/-- A backslash and what is read behind it spell a character. -/
theorem escape_sound {text middle : List Char} {c : Char}
    (h : escape text = .ok (c, middle)) {content rest : List Char}
    (spelled : Spelled content middle rest) :
    Spelled (c :: content) ('\\' :: text) rest := by
  unfold escape at h
  split at h
  · cases h
  · next digits =>
      obtain ⟨⟨code, inner⟩, read, h⟩ := bind_eq_ok_iff.mp h
      have unit := hexUnit_sound read
      dsimp only at h
      split at h
      · cases h
      · next not_trailing =>
          split at h
          · next isLeading =>
              obtain ⟨trailing, unit', isTrailing, joined⟩ :=
                trailingEscape_sound h
              rw [isLeadingSurrogate_iff] at isLeading
              rw [isTrailingSurrogate_iff] at isTrailing
              obtain ⟨leading, rfl⟩ := Nat.exists_eq_add_of_le isLeading.1
              obtain ⟨trailing, rfl⟩ := Nat.exists_eq_add_of_le isTrailing.1
              have leading_lt : leading < 0x400 := by omega
              have trailing_lt : trailing < 0x400 := by omega
              have value := joinSurrogates_toNat leading_lt trailing_lt
              rw [← joined] at value
              exact .pair unit unit' leading_lt trailing_lt value spelled
          · next not_leading =>
              cases h
              rw [isTrailingSurrogate_iff] at not_trailing
              rw [isLeadingSurrogate_iff] at not_leading
              have bound := unit.lt
              have valid : code.isValidChar := by
                rw [Nat.isValidChar]
                omega
              refine .unit ?_ spelled
              rwa [toNat_ofNat valid]
  · next letter others _ =>
      split at h
      · next found =>
          cases h
          exact .short (simpleEscape?_sound found) spelled
      · cases h

theorem skipEscape_sound {text middle : List Char}
    (h : skipEscape text = .ok middle) {rest : List Char}
    (skimmed : Skimmed middle rest) : Skimmed ('\\' :: text) rest := by
  unfold skipEscape at h
  split at h
  · cases h
  · obtain ⟨⟨code, inner⟩, read, ⟨⟩⟩ := bind_eq_ok_iff.mp h
    exact .unit (hexUnit_sound read) skimmed
  · split at h
    · next found =>
        cases h
        exact .short (simpleEscape?_sound found) skimmed
    · cases h

/-! ## Strings that are read -/

theorem stringWithin_sound {fuel : Nat} {reversed text content rest : List Char}
    (h : stringWithin fuel reversed text = .ok (content, rest)) :
    ∃ read, content = reversed.reverse ++ read ∧ Spelled read text rest := by
  induction fuel generalizing reversed text with
  | zero => cases h
  | succ fuel ih =>
      cases text with
      | nil => cases h
      | cons c text =>
          rw [stringWithin] at h
          split at h
          · next quote =>
              cases h
              subst quote
              exact ⟨[], (List.append_nil _).symm, .close⟩
          · next notQuote =>
              split at h
              · next backslash =>
                  subst backslash
                  split at h
                  · next escaped middle found =>
                      obtain ⟨read, rfl, spelled⟩ := ih h
                      exact ⟨escaped :: read, by simp,
                        escape_sound found spelled⟩
                  · cases h
              · next notEscape =>
                  split at h
                  · cases h
                  · next printable =>
                      have notControl : 0x20 ≤ c.toNat := by
                        simpa [isControl] using printable
                      obtain ⟨read, rfl, spelled⟩ := ih h
                      exact ⟨c :: read, by simp,
                        .plain notQuote notEscape notControl spelled⟩

theorem string_sound {text content rest : List Char}
    (h : string text = .ok (content, rest)) : Spelled content text rest := by
  obtain ⟨read, rfl, spelled⟩ := stringWithin_sound h
  exact spelled

theorem skipStringWithin_sound {fuel : Nat} {text rest : List Char}
    (h : skipStringWithin fuel text = .ok rest) : Skimmed text rest := by
  induction fuel generalizing text with
  | zero => cases h
  | succ fuel ih =>
      cases text with
      | nil => cases h
      | cons c text =>
          rw [skipStringWithin] at h
          split at h
          · next quote =>
              cases h
              subst quote
              exact .close
          · next notQuote =>
              split at h
              · next backslash =>
                  subst backslash
                  split at h
                  · next found => exact skipEscape_sound found (ih h)
                  · cases h
              · next notEscape =>
                  split at h
                  · cases h
                  · next printable =>
                      have notControl : 0x20 ≤ c.toNat := by
                        simpa [isControl] using printable
                      exact .plain notQuote notEscape notControl (ih h)

theorem skipString_sound {text rest : List Char}
    (h : skipString text = .ok rest) : Skimmed text rest :=
  skipStringWithin_sound h

end MeterWatch.Json
