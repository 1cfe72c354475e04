import MeterWatch.Toml.Reading
import Mathlib.Data.List.TakeWhile

/-!
# Numbers and times at the end of a line

What is read of a number or of a time does not depend on what ends its line:
blanks, and then a comment or the next line.  This holds of what is refused as
well, because one notation is tried after the other.
-/

namespace MeterWatch.Toml

/-! ## Ends of lines -/

/-- Nothing but blanks up to a comment or to the next line. -/
def EndsLine (tail : List Char) : Prop :=
  ∀ c ∈ (skipBlanks tail).head?, c = '\n' ∨ c = '#'

def lineEnders : List Char := [' ', '\t', '\n', '#']

theorem EndsLine.head {tail : List Char} (ends : EndsLine tail) :
    ∀ c ∈ tail.head?, c ∈ lineEnders := by
  cases tail with
  | nil => simp
  | cons c rest =>
      rintro _ ⟨⟩
      by_cases blank : isBlank c = true
      · rw [isBlank, Bool.or_eq_true, beq_iff_eq, beq_iff_eq] at blank
        rcases blank with rfl | rfl <;> decide
      · have first : (skipBlanks (c :: rest)).head? = some c := by
          rw [skipBlanks, List.dropWhile_cons_of_neg blank]
          rfl
        rcases ends c first with rfl | rfl <;> decide

theorem EndsLine.cases {tail : List Char} (ends : EndsLine tail) :
    tail = [] ∨ ∃ c rest, tail = c :: rest ∧
      (c = ' ' ∨ c = '\t' ∨ c = '\n' ∨ c = '#') := by
  cases tail with
  | nil => exact .inl rfl
  | cons c rest =>
      have ender := ends.head c rfl
      simp only [lineEnders, List.mem_cons, List.not_mem_nil, or_false]
        at ender
      exact .inr ⟨c, rest, rfl, ender⟩

theorem EndsLine.behind_blank {c : Char} {tail : List Char}
    (ends : EndsLine (c :: tail)) (blank : isBlank c = true) :
    EndsLine tail := by
  rwa [EndsLine, skipBlanks, List.dropWhile_cons_of_pos blank] at ends

/-- A class of characters none of which ends a line. -/
def StaysInLine (p : Char → Bool) : Prop :=
  ∀ c ∈ lineEnders, p c = false

theorem staysInLine_of_all {p : Char → Bool}
    (none_ends : lineEnders.all (!p ·) = true) : StaysInLine p :=
  fun c ender => by simpa using List.all_eq_true.mp none_ends c ender

theorem EndsLine.not_head {tail : List Char} (ends : EndsLine tail)
    {p : Char → Bool} (stays : StaysInLine p) :
    ∀ c ∈ tail.head?, p c = false :=
  fun c first => stays c (ends.head c first)

theorem dropWhile_append {tail : List Char} (ends : EndsLine tail)
    {p : Char → Bool} (stays : StaysInLine p) (text : List Char) :
    (text ++ tail).dropWhile p = text.dropWhile p ++ tail := by
  rw [List.dropWhile_append]
  split
  · next empty =>
      rw [List.isEmpty_iff.mp empty, List.nil_append]
      cases tail with
      | nil => rfl
      | cons c rest =>
          exact List.dropWhile_cons_of_neg
            (by simp [ends.not_head stays c rfl])
  · rfl

theorem takeWhile_append {tail : List Char} (ends : EndsLine tail)
    {p : Char → Bool} (stays : StaysInLine p) (text : List Char) :
    (text ++ tail).takeWhile p = text.takeWhile p := by
  have whole := (text ++ tail).takeWhile_append_dropWhile (p := p)
  have parts := text.takeWhile_append_dropWhile (p := p)
  rw [dropWhile_append ends stays, ← List.append_assoc] at whole
  exact List.append_cancel_right ((List.append_cancel_right whole).trans
    parts.symm)

/-! ## Readers -/

/-- A reader that does the same whatever ends the line. -/
def IsLocal {α : Type} (read : Reader α) : Prop :=
  ∀ text tail, EndsLine tail →
    read (text ++ tail) = (read text).map fun found =>
      (found.1, found.2 ++ tail)

/-- A check that passes the same text whatever ends the line. -/
def IsLocalCheck (check : List Char → Option (List Char)) : Prop :=
  ∀ text tail, EndsLine tail →
    check (text ++ tail) = (check text).map (· ++ tail)

section Binding

variable {α β : Type} {tail : List Char} {extend : β → β}

theorem bind_found {longer short : Option (α × List Char)}
    (first : longer = short.map fun found => (found.1, found.2 ++ tail))
    {next : α × List Char → Option β}
    (second : ∀ found rest,
      next (found, rest ++ tail) = (next (found, rest)).map extend) :
    (longer >>= next) = (short >>= next).map extend := by
  subst first
  cases short with
  | none => rfl
  | some found => exact second found.1 found.2

theorem bind_passed {longer short : Option (List Char)}
    (first : longer = short.map (· ++ tail))
    {next : List Char → Option β}
    (second : ∀ rest, next (rest ++ tail) = (next rest).map extend) :
    (longer >>= next) = (short >>= next).map extend := by
  subst first
  cases short with
  | none => rfl
  | some rest => exact second rest

end Binding

/-! ## Dates and times -/

theorem staysInLine_isDigit : StaysInLine Char.isDigit :=
  staysInLine_of_all (by decide)

theorem numberBetween_isLocal (size low high : Nat) :
    IsLocal (numberBetween size low high) := by
  intro text tail ends
  simp only [numberBetween]
  by_cases long : size ≤ text.length
  · rw [List.take_append_of_le_length long, List.drop_append_of_le_length long]
    split <;> rfl
  · -- The run would have to go on behind the end of the line.
    have short_run : (text.take size).length ≠ size := by
      rw [List.length_take]
      omega
    have broken : ¬ (((text ++ tail).take size).length = size ∧
        ((text ++ tail).take size).all Char.isDigit = true) := by
      rintro ⟨long_run, digits⟩
      rw [List.take_append, List.length_append, List.length_take,
        List.length_take] at long_run
      cases tail with
      | nil =>
          rw [List.length_nil] at long_run
          omega
      | cons c rest =>
          have not_digit := ends.not_head staysInLine_isDigit c rfl
          obtain ⟨more, more_eq⟩ : ∃ more, size - text.length = more + 1 :=
            ⟨size - text.length - 1, by omega⟩
          rw [List.take_append, more_eq, List.take_succ_cons,
            List.all_append, List.all_cons, not_digit] at digits
          simp at digits
    rw [if_neg fun holds => broken ⟨holds.1, holds.2.1⟩,
      if_neg fun holds => short_run holds.1]
    rfl

theorem expect_isLocal {c : Char} (stays : c ∉ lineEnders) :
    IsLocalCheck (expect c) := by
  intro text tail ends
  cases text with
  | nil =>
      cases tail with
      | nil => rfl
      | cons first rest =>
          have other : first ≠ c := by
            rintro rfl
            exact stays (ends.head first rfl)
          exact if_neg other
  | cons first rest =>
      rw [List.cons_append, expect, expect]
      split <;> rfl

theorem date?_isLocal : IsLocalCheck date? := by
  intro text tail ends
  have dash := expect_isLocal (by decide : '-' ∉ lineEnders)
  refine bind_found (numberBetween_isLocal _ _ _ _ _ ends) fun year rest => ?_
  refine bind_passed (dash _ _ ends) fun rest => ?_
  refine bind_found (numberBetween_isLocal _ _ _ _ _ ends) fun month rest => ?_
  refine bind_passed (dash _ _ ends) fun rest => ?_
  exact bind_found (numberBetween_isLocal _ _ _ _ _ ends) fun _ _ => rfl

theorem subsecond?_isLocal : IsLocalCheck subsecond? := by
  intro text tail ends
  have not_digit := ends.not_head staysInLine_isDigit
  cases text with
  | nil =>
      rcases ends.cases with rfl | ⟨c, rest, rfl, rfl | rfl | rfl | rfl⟩ <;>
        rfl
  | cons first rest =>
      by_cases point : first = '.'
      · subst point
        cases rest with
        | nil =>
            cases tail with
            | nil => rfl
            | cons c others =>
                exact if_neg (by simp [not_digit c rfl])
        | cons c others =>
            simp only [List.cons_append, subsecond?]
            rw [← List.cons_append, dropWhile_append ends staysInLine_isDigit]
            split <;> rfl
      · simp [subsecond?, point]

theorem timeOfDay?_isLocal : IsLocalCheck timeOfDay? := by
  intro text tail ends
  have colon := expect_isLocal (by decide : ':' ∉ lineEnders)
  refine bind_found (numberBetween_isLocal _ _ _ _ _ ends) fun _ rest => ?_
  refine bind_passed (colon _ _ ends) fun rest => ?_
  refine bind_found (numberBetween_isLocal _ _ _ _ _ ends) fun _ rest => ?_
  refine bind_passed (colon _ _ ends) fun rest => ?_
  refine bind_found (numberBetween_isLocal _ _ _ _ _ ends) fun _ rest => ?_
  exact subsecond?_isLocal rest tail ends

theorem offset?_isLocal : IsLocalCheck offset? := by
  intro text tail ends
  have colon := expect_isLocal (by decide : ':' ∉ lineEnders)
  cases text with
  | nil =>
      rcases ends.cases with rfl | ⟨c, rest, rfl, rfl | rfl | rfl | rfl⟩ <;>
        rfl
  | cons c rest =>
      by_cases utc : c = 'Z' ∨ c = 'z'
      · rcases utc with rfl | rfl <;> rfl
      by_cases sign : c = '+' ∨ c = '-'
      · have minutes : IsLocalCheck fun text => do
            let hours ← numberBetween 2 0 23 text
            let minutes ← numberBetween 2 0 59 (← expect ':' hours.2)
            return minutes.2 := by
          intro text tail ends
          refine bind_found (numberBetween_isLocal _ _ _ _ _ ends)
            fun _ rest => ?_
          refine bind_passed (colon _ _ ends) fun rest => ?_
          exact bind_found (numberBetween_isLocal _ _ _ _ _ ends) fun _ _ => rfl
        rcases sign with rfl | rfl <;> exact minutes rest tail ends
      · rw [not_or] at utc sign
        simp [offset?, utc, sign]

theorem dateTime?_isLocal : IsLocalCheck dateTime? := by
  intro text tail ends
  refine bind_passed (date?_isLocal text tail ends) fun rest => ?_
  cases rest with
  | nil =>
      rcases ends.cases with rfl | ⟨c, rest, rfl, rfl | rfl | rfl | rfl⟩
      · rfl
      · -- Only blanks are left, so the blank is not that before a time.
        have no_time : timeOfDay? rest = none := by
          have ended := ends.behind_blank rfl
          exact (timeOfDay?_isLocal [] rest ended).trans rfl
        dsimp only [List.nil_append]
        rw [no_time]
        rfl
      all_goals rfl
  | cons mark time =>
      rw [List.cons_append]
      dsimp only
      split
      · rw [timeOfDay?_isLocal time tail ends]
        cases timeOfDay? time with
        | none =>
            dsimp only [Option.map_none]
            split <;> rfl
        | some rest => exact offset?_isLocal rest tail ends
      · rfl

theorem time?_isLocal : IsLocalCheck time? := by
  intro text tail ends
  rw [time?, dateTime?_isLocal text tail ends, time?]
  cases dateTime? text with
  | none => exact timeOfDay?_isLocal text tail ends
  | some rest => rfl

/-! ## Digits -/

/-- Digits neither end a line nor separate digits. -/
structure IsDigitClass (isDigit : Char → Bool) : Prop where
  stays : StaysInLine isDigit
  underscore : isDigit '_' = false

theorem moreDigits_cons {isDigit : Char → Bool} {c : Char} (single : c ≠ '_')
    (text : List Char) :
    moreDigits isDigit (c :: text) =
      if isDigit c then do
        let (digits, rest) ← moreDigits isDigit text
        return (c :: digits, rest)
      else some ([], c :: text) := by
  rw [moreDigits.eq_2 _ _ _ fun _ _ mark _ => single mark, if_neg single]

theorem moreDigits_isLocal {isDigit : Char → Bool}
    (digits : IsDigitClass isDigit) : IsLocal (moreDigits isDigit) := by
  intro text tail ends
  fun_induction moreDigits isDigit text with
  | case1 c rest digit ih =>
      simp only [List.cons_append, moreDigits, digit, if_true]
      exact bind_found ih fun _ _ => rfl
  | case2 c rest other => simp [moreDigits, other]
  | case3 c rest _ digit ih =>
      have single : c ≠ '_' := by
        rintro rfl
        rw [digits.underscore] at digit
        cases digit
      rw [List.cons_append, moreDigits_cons single, if_pos digit]
      exact bind_found ih fun _ _ => rfl
  | case4 rest last other =>
      cases rest with
      | nil =>
          rcases ends.cases with rfl | ⟨c, rest, rfl, ender⟩
          · simp [moreDigits, other]
          · simp [moreDigits, ends.not_head digits.stays c rfl]
      | cons c rest => exact (last c rest rfl rfl).elim
  | case5 c rest _ other single =>
      rw [List.cons_append, moreDigits_cons single, if_neg other]
      rfl
  | case6 =>
      rcases ends.cases with rfl | ⟨c, rest, rfl, ender⟩
      · rfl
      · have single : c ≠ '_' := by
          rintro rfl
          simp at ender
        rw [List.nil_append, moreDigits_cons single,
          if_neg (by simp [ends.not_head digits.stays c rfl])]
        rfl

theorem digits_isLocal {isDigit : Char → Bool}
    (digitClass : IsDigitClass isDigit) : IsLocal (digits isDigit) := by
  intro text tail ends
  cases text with
  | nil =>
      rcases ends.cases with rfl | ⟨c, rest, rfl, ender⟩
      · rfl
      · exact if_neg (by simp [ends.not_head digitClass.stays c rfl])
  | cons c rest =>
      rw [List.cons_append, digits, digits]
      split
      · exact bind_found (moreDigits_isLocal digitClass rest tail ends)
          fun _ _ => rfl
      · rfl

theorem isDigitClass_isDigit : IsDigitClass Char.isDigit :=
  ⟨staysInLine_isDigit, rfl⟩

theorem splitSign_append {tail : List Char} (ends : EndsLine tail)
    (text : List Char) :
    splitSign (text ++ tail) =
      ((splitSign text).1, (splitSign text).2 ++ tail) := by
  cases text with
  | nil =>
      rcases ends.cases with rfl | ⟨c, rest, rfl, rfl | rfl | rfl | rfl⟩ <;>
        rfl
  | cons c rest =>
      by_cases minus : c = '-'
      · subst minus
        rfl
      by_cases plus : c = '+'
      · subst plus
        rfl
      simp [splitSign, minus, plus]

theorem wholeDigits_isLocal : IsLocal wholeDigits := by
  intro text tail ends
  have any := digits_isLocal isDigitClass_isDigit text tail ends
  cases text with
  | nil =>
      rcases ends.cases with rfl | ⟨c, rest, rfl, rfl | rfl | rfl | rfl⟩ <;>
        rfl
  | cons c rest =>
      by_cases zero : c = '0'
      · subst zero
        rfl
      · simpa [wholeDigits, zero] using any

/-! ## Whole numbers -/

theorem basedInteger_isLocal (base : Nat) {isDigit : Char → Bool}
    (digitClass : IsDigitClass isDigit) :
    IsLocal (basedInteger base isDigit) := by
  intro text tail ends
  refine bind_found (digits_isLocal digitClass text tail ends)
    fun run rest => ?_
  dsimp only
  cases int64? (valueInBase base run) <;> rfl

theorem decimalInteger_isLocal : IsLocal decimalInteger := by
  intro text tail ends
  simp only [decimalInteger, splitSign_append ends]
  refine bind_found (wholeDigits_isLocal _ tail ends) fun run rest => ?_
  dsimp only
  cases int64? _ <;> rfl

theorem integer_eq_decimalInteger {text : List Char}
    (unbased : ∀ mark ∈ ['x', 'o', 'b'], ∀ rest, text ≠ '0' :: mark :: rest) :
    integer text = decimalInteger text := by
  unfold integer
  split
  · exact absurd rfl (unbased 'x' (by simp) _)
  · exact absurd rfl (unbased 'o' (by simp) _)
  · exact absurd rfl (unbased 'b' (by simp) _)
  · rfl

theorem integer_isLocal : IsLocal integer := by
  intro text tail ends
  have hex : IsDigitClass isHexDigit :=
    ⟨staysInLine_of_all (by decide), rfl⟩
  have octal : IsDigitClass isOctalDigit :=
    ⟨staysInLine_of_all (by decide), rfl⟩
  have binary : IsDigitClass isBinaryDigit :=
    ⟨staysInLine_of_all (by decide), rfl⟩
  by_cases based : ∃ mark ∈ ['x', 'o', 'b'], ∃ rest, text = '0' :: mark :: rest
  · obtain ⟨mark, member, rest, rfl⟩ := based
    simp only [List.mem_cons, List.not_mem_nil, or_false] at member
    rcases member with rfl | rfl | rfl
    · exact basedInteger_isLocal 16 hex rest tail ends
    · exact basedInteger_isLocal 8 octal rest tail ends
    · exact basedInteger_isLocal 2 binary rest tail ends
  · have unbased : ∀ mark ∈ ['x', 'o', 'b'], ∀ rest,
        text ≠ '0' :: mark :: rest :=
      fun mark member rest starts => based ⟨mark, member, rest, starts⟩
    rw [integer_eq_decimalInteger unbased,
      ← decimalInteger_isLocal text tail ends]
    refine integer_eq_decimalInteger fun mark member rest starts => ?_
    match text with
    | [] =>
        rcases ends.cases with rfl | ⟨c, others, rfl, ender⟩
        · cases starts
        · obtain ⟨rfl, -⟩ := List.cons.inj starts
          simp at ender
    | [c] =>
        obtain ⟨rfl, behind⟩ := List.cons.inj starts
        rcases ends.cases with rfl | ⟨c, others, rfl, ender⟩
        · cases behind
        · obtain ⟨rfl, -⟩ := List.cons.inj behind
          rcases ender with rfl | rfl | rfl | rfl <;> simp at member
    | c :: d :: others =>
        obtain ⟨rfl, behind⟩ := List.cons.inj starts
        obtain ⟨rfl, -⟩ := List.cons.inj behind
        exact unbased _ member others rfl

/-! ## Other numbers -/

theorem fraction_isLocal : IsLocal fraction := by
  intro text tail ends
  cases text with
  | nil =>
      rcases ends.cases with rfl | ⟨c, rest, rfl, rfl | rfl | rfl | rfl⟩ <;>
        rfl
  | cons c rest =>
      by_cases point : c = '.'
      · subst point
        exact digits_isLocal isDigitClass_isDigit rest tail ends
      · simp [fraction, point]

theorem exponent_isLocal : IsLocal exponent := by
  intro text tail ends
  cases text with
  | nil =>
      rcases ends.cases with rfl | ⟨c, rest, rfl, rfl | rfl | rfl | rfl⟩ <;>
        rfl
  | cons mark rest =>
      simp only [List.cons_append, exponent, splitSign_append ends]
      split
      · exact bind_found (digits_isLocal isDigitClass_isDigit _ tail ends)
          fun _ _ => rfl
      · rfl

theorem fractionAndExponent_isLocal : IsLocal fractionAndExponent := by
  intro text tail ends
  unfold fractionAndExponent
  rw [fraction_isLocal text tail ends]
  cases fraction text with
  | none =>
      exact bind_found (exponent_isLocal text tail ends) fun _ _ => rfl
  | some found =>
      obtain ⟨places, rest⟩ := found
      dsimp only [Option.map_some]
      rw [exponent_isLocal rest tail ends]
      cases exponent rest <;> rfl

theorem finiteReal_isLocal : IsLocal finiteReal := by
  intro text tail ends
  simp only [finiteReal, splitSign_append ends]
  refine bind_found (wholeDigits_isLocal _ tail ends) fun whole rest => ?_
  refine bind_found (fractionAndExponent_isLocal rest tail ends)
    fun parts rest => ?_
  dsimp only
  split <;> rfl

theorem isPrefixOf?_cons (letter c : Char) (letters text : List Char) :
    (letter :: letters).isPrefixOf? (c :: text) =
      if letter == c then letters.isPrefixOf? text else none :=
  rfl

theorem isPrefixOf?_isLocal {letters : List Char}
    (stays : ∀ c ∈ letters, c ∉ lineEnders) :
    IsLocalCheck letters.isPrefixOf? := by
  intro text tail ends
  induction letters generalizing text with
  | nil => rfl
  | cons letter letters ih =>
      obtain ⟨first, others⟩ := List.forall_mem_cons.mp stays
      cases text with
      | nil =>
          cases tail with
          | nil => rfl
          | cons c rest =>
              have other : (letter == c) = false := by
                rw [beq_eq_false_iff_ne]
                rintro rfl
                exact first (ends.head letter rfl)
              rw [List.nil_append, isPrefixOf?_cons, other]
              rfl
      | cons c rest =>
          rw [List.cons_append, isPrefixOf?_cons, isPrefixOf?_cons]
          split
          · exact ih others rest
          · rfl

theorem eq_append_of_isPrefixOf? {letters text rest : List Char}
    (h : letters.isPrefixOf? text = some rest) : text = letters ++ rest := by
  induction letters generalizing text with
  | nil => exact Option.some.inj h
  | cons letter letters ih =>
      cases text with
      | nil => cases h
      | cons c others =>
          rw [isPrefixOf?_cons] at h
          split at h
          · next same =>
              rw [beq_iff_eq.mp same, ih h, List.cons_append]
          · cases h

theorem namedReal_eq (text : List Char) :
    namedReal text =
      ((("inf".toList.isPrefixOf? (splitSign text).2).map fun rest =>
          (.infinite (splitSign text).1, rest)) <|>
        ("nan".toList.isPrefixOf? (splitSign text).2).map fun rest =>
          (.nan, rest)) := by
  simp only [namedReal]
  split
  · next rest unsigned =>
      rw [unsigned]
      rfl
  · next rest unsigned =>
      rw [unsigned]
      rfl
  · next not_inf not_nan =>
      have unread (letters : List Char)
          (other : ∀ rest, (splitSign text).2 ≠ letters ++ rest) :
          letters.isPrefixOf? (splitSign text).2 = none := by
        cases read : letters.isPrefixOf? (splitSign text).2 with
        | none => rfl
        | some rest => exact absurd (eq_append_of_isPrefixOf? read) (other rest)
      rw [unread "inf".toList not_inf, unread "nan".toList not_nan]
      rfl

theorem namedReal_isLocal : IsLocal namedReal := by
  intro text tail ends
  have inf := @isPrefixOf?_isLocal "inf".toList (by simp [lineEnders])
  have nan := @isPrefixOf?_isLocal "nan".toList (by simp [lineEnders])
  rw [namedReal_eq, namedReal_eq, splitSign_append ends]
  dsimp only
  rw [inf _ tail ends, nan _ tail ends]
  cases "inf".toList.isPrefixOf? (splitSign text).2 <;>
    cases "nan".toList.isPrefixOf? (splitSign text).2 <;> rfl

theorem real_isLocal : IsLocal real := by
  intro text tail ends
  rw [real, finiteReal_isLocal text tail ends, real]
  cases finiteReal text with
  | none => exact namedReal_isLocal text tail ends
  | some found => rfl

theorem numeric_isLocal : IsLocal numeric := by
  intro text tail ends
  rw [numeric, numeric, time?_isLocal text tail ends]
  cases time? text with
  | some rest => rfl
  | none =>
      dsimp only [Option.map_none]
      rw [real_isLocal text tail ends]
      cases real text with
      | some found => rfl
      | none =>
          exact bind_found (integer_isLocal text tail ends) fun _ _ => rfl

end MeterWatch.Toml
