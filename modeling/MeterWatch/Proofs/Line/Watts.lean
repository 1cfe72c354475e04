import MeterWatch.Dashboard
import MeterWatch.Proofs.Line.DemandRecord

/-!
# Watts column for column

Only the first field of watts on a line is read.  Its readout has the columns of
the field: the digits stand where they stood, and blanks stand for the zeros in
front of them.
-/

namespace MeterWatch.Line

open Text (isDecimalDigit)

/-! ## Fields -/

/-- A field of watts starts at this place. -/
structure IsPowerField (line : List Char) (place : Nat) (digits : List Char) :
    Prop where
  isRow : digits ∈ someOf isDecimalDigit
  stands : "<ch1><watts>".toList ++ digits ++ "</watts></ch1>".toList <+:
    line.drop place

structure IsFirstPowerField (line : List Char) (place : Nat)
    (digits : List Char) : Prop where
  isField : IsPowerField line place digits
  first : ∀ other found, IsPowerField line other found → place ≤ other

theorem powerField?_drop_iff {line digits : List Char} {place : Nat} :
    powerField? (line.drop place) = some digits ↔
      IsPowerField line place digits := by
  rw [powerField?_eq_some_iff]
  exact ⟨fun ⟨row, stands⟩ => ⟨row, stands⟩, fun ⟨row, stands⟩ => ⟨row, stands⟩⟩

theorem exists_first_powerField {line digits : List Char}
    (read : leftmost? powerField? line = some digits) :
    ∃ place, IsFirstPowerField line place digits := by
  obtain ⟨place, here, first⟩ :=
    (leftmost?_eq_some_iff fun _ _ => powerField?_drop_iff).mp read
  exact ⟨place, here, first⟩

theorem leftmost?_powerField_isSome {line digits : List Char} {place : Nat}
    (field : IsPowerField line place digits) :
    (leftmost? powerField? line).isSome = true := by
  obtain ⟨first, found, isFirst⟩ :=
    exists_first (fun _ _ => powerField?_drop_iff) field
  rw [(leftmost?_eq_some_iff fun _ _ => powerField?_drop_iff).mpr
    ⟨first, isFirst⟩]
  rfl

theorem IsFirstPowerField.leftmost? {line digits : List Char} {place : Nat}
    (first : IsFirstPowerField line place digits) :
    Line.leftmost? powerField? line = some digits :=
  (leftmost?_eq_some_iff fun _ _ => powerField?_drop_iff).mpr
    ⟨place, first.isField, first.first⟩

/-! ## Leading zeros -/

/-- A blank for each zero in front of another digit. -/
def blanked : List Char → List Char
  | '0' :: digit :: digits => ' ' :: blanked (digit :: digits)
  | digits => digits

theorem leadingZeros_zero (digit : Char) (digits : List Char) :
    leadingZeros ('0' :: digit :: digits) =
      leadingZeros (digit :: digits) + 1 := by
  simp only [leadingZeros, List.takeWhile_cons, beq_self_eq_true, if_true,
    List.length_cons]
  omega

theorem leadingZeros_other {digits : List Char}
    (other : ∀ digit rest, digits ≠ '0' :: digit :: rest) :
    leadingZeros digits = 0 := by
  match digits with
  | [] | [_] => simp [leadingZeros]
  | first :: second :: rest =>
      have nonzero : first ≠ '0' := by
        rintro rfl
        exact other second rest rfl
      simp [leadingZeros, nonzero]

theorem blanked_eq (digits : List Char) :
    blanked digits = List.replicate (leadingZeros digits) ' ' ++
      digits.drop (leadingZeros digits) := by
  fun_induction blanked digits with
  | case1 digit digits ih =>
      rw [leadingZeros_zero, ih]
      rfl
  | case2 digits other =>
      rw [leadingZeros_other other]
      rfl

theorem zeros_append_drop (digits : List Char) :
    List.replicate (leadingZeros digits) '0' ++
      digits.drop (leadingZeros digits) = digits := by
  fun_induction blanked digits with
  | case1 digit digits ih =>
      rw [leadingZeros_zero, List.replicate_succ, List.cons_append,
        List.drop_succ_cons, ih]
  | case2 digits other =>
      rw [leadingZeros_other other]
      rfl

@[simp] theorem length_blanked (digits : List Char) :
    (blanked digits).length = digits.length := by
  have lengths := congrArg List.length (zeros_append_drop digits)
  rw [blanked_eq]
  simpa using lengths

/-- What is left starts with a zero only if that is all of it. -/
theorem drop_leadingZeros_head (digits : List Char) :
    (digits.drop (leadingZeros digits)).head? ≠ some '0' ∨
      digits.drop (leadingZeros digits) = ['0'] := by
  fun_induction blanked digits with
  | case1 digit digits ih => rwa [leadingZeros_zero, List.drop_succ_cons]
  | case2 digits other =>
      rw [leadingZeros_other other, List.drop_zero]
      match digits with
      | [] => simp
      | [digit] => simpa using Decidable.ne_or_eq digit '0'
      | first :: second :: rest =>
          refine .inl fun zero => other second rest ?_
          simpa using zero

theorem drop_leadingZeros_ne_nil {digits : List Char} (h : digits ≠ []) :
    digits.drop (leadingZeros digits) ≠ [] := by
  have positive := List.length_pos_of_ne_nil h
  refine List.ne_nil_of_length_pos ?_
  rw [List.length_drop, leadingZeros]
  omega

theorem digitsValue_drop (digits : List Char) :
    digitsValue (digits.drop (leadingZeros digits)) = digitsValue digits := by
  have value_eq := @Nat.ofDigitChars_append 10
    (List.replicate (leadingZeros digits) '0')
    (digits.drop (leadingZeros digits)) 0
  rw [zeros_append_drop, Nat.ofDigitChars_replicate_zero, Nat.mul_zero]
    at value_eq
  exact value_eq.symm

theorem all_isDigit_drop (digits : List Char) :
    (∀ c ∈ digits.drop (leadingZeros digits), c.isDigit = true) ↔
      ∀ c ∈ digits, c.isDigit = true := by
  constructor
  · intro all c member
    rw [← zeros_append_drop digits, List.mem_append] at member
    rcases member with zero | behind
    · rw [List.eq_of_mem_replicate zero]
      rfl
    · exact all c behind
  · exact fun all c member => all c (List.mem_of_mem_drop member)

/-! ## Digits of numbers -/

theorem digitChar_digit {c : Char} (digit : c.isDigit = true) :
    (c.toNat - '0'.toNat).digitChar = c ∧ c.toNat - '0'.toNat < 10 := by
  obtain ⟨low, high⟩ : 48 ≤ c.toNat ∧ c.toNat ≤ 57 :=
    Char.isDigit_iff_toNat.mp digit
  have zero : '0'.toNat = 48 := rfl
  have small : c.toNat - '0'.toNat < 10 := by omega
  refine ⟨Char.toNat_inj.mp ?_, small⟩
  rw [Nat.toNat_digitChar_of_lt_ten small]
  omega

theorem toDigits_append {number : Nat} (positive : 0 < number)
    {digits : List Char} (all : ∀ c ∈ digits, c.isDigit = true) :
    Nat.toDigits 10 number ++ digits =
      Nat.toDigits 10 (Nat.ofDigitChars 10 digits number) := by
  induction digits generalizing number with
  | nil => simp
  | cons c digits ih =>
      obtain ⟨digit, others⟩ := List.forall_mem_cons.mp all
      obtain ⟨char_eq, small⟩ := digitChar_digit digit
      have next := Nat.toDigits_append_toDigits (b := 10) (by decide) positive
        small
      rw [Nat.toDigits_of_lt_base small, char_eq] at next
      rw [Nat.ofDigitChars_cons, ← ih (by omega) others, ← next]
      simp

/-- A row without leading zeros is how its value is written. -/
theorem toString_digitsValue {digits : List Char} (nonempty : digits ≠ [])
    (all : ∀ c ∈ digits, c.isDigit = true)
    (canonical : digits.head? ≠ some '0' ∨ digits = ['0']) :
    toString (digitsValue digits) = String.ofList digits := by
  rcases canonical with leading | rfl
  · obtain ⟨c, others, rfl⟩ := List.exists_cons_of_ne_nil nonempty
    obtain ⟨digit, more⟩ := List.forall_mem_cons.mp all
    obtain ⟨char_eq, small⟩ := digitChar_digit digit
    have nonzero : c.toNat - '0'.toNat ≠ 0 := by
      intro zero
      rw [zero] at char_eq
      exact leading (congrArg some char_eq.symm)
    have written := toDigits_append (Nat.pos_of_ne_zero nonzero) more
    rw [Nat.toDigits_of_lt_base small, char_eq] at written
    have value_eq : digitsValue (c :: others) =
        Nat.ofDigitChars 10 others (c.toNat - '0'.toNat) := by
      change Nat.ofDigitChars 10 (c :: others) 0 = _
      rw [Nat.ofDigitChars_cons, Nat.mul_zero, Nat.zero_add]
    rw [value_eq, Nat.toString_eq_repr, Nat.repr_eq_ofList_toDigits, ← written]
    rfl
  · rfl

/-! ## Readings -/

theorem powerReading?_of_field {line digits : List Char}
    (read : leftmost? powerField? line = some digits) :
    powerReading? line =
      (readDecimal? (digits.drop (leadingZeros digits))).map fun watts =>
        .power watts (leadingZeros digits) := by
  simp only [powerReading?, read, Option.bind_eq_bind, Option.bind_some]
  cases readDecimal? (digits.drop (leadingZeros digits)) <;> rfl

/-- Blanks come for the zeros that are counted, and the other digits are those
of the number. -/
theorem powerText_eq {digits : List Char} (nonempty : digits ≠ [])
    (all : ∀ c ∈ digits, c.isDigit = true) :
    powerText (digitsValue digits) (leadingZeros digits) =
      String.ofList (blanked digits) := by
  have written := toString_digitsValue (drop_leadingZeros_ne_nil nonempty)
    ((all_isDigit_drop digits).mpr all) (drop_leadingZeros_head digits)
  rw [digitsValue_drop] at written
  rw [powerText, written, blanked_eq, String.ofList_append]

theorem digitsValue_blanked {digits : List Char}
    (all : ∀ c ∈ digits, c.isDigit = true) :
    digitsValue ((blanked digits).dropWhile (· == ' ')) =
      digitsValue digits := by
  have dark : Stops (· == ' ') (digits.drop (leadingZeros digits)) := by
    intro c first
    have digit := all c (List.mem_of_mem_drop (List.mem_of_head? first))
    rw [beq_eq_false_iff_ne]
    rintro rfl
    cases digit
  rw [blanked_eq, (takeWhile_append (by simp) dark).2, digitsValue_drop]

def powerOf? : Reading → Option (Nat × Nat)
  | .power watts padding => some (watts, padding)
  | _ => none

/-- The readings of the power meter on a line. -/
def powers (line : String) : List (Nat × Nat) :=
  (decode line).filterMap powerOf?

/-- The other readers of a line read no power. -/
theorem powers_eq (line : String) :
    powers line = (powerReading? line.toList).toList.filterMap powerOf? := by
  refine filterMap_decode_power (fun reading other => ?_) line
  cases reading with
  | power => exact absurd rfl other
  | _ => rfl

theorem powers_of_first {line : String} {place : Nat} {digits : List Char}
    (first : IsFirstPowerField line.toList place digits) :
    powers line = ((readDecimal? (digits.drop (leadingZeros digits))).map
      (·, leadingZeros digits)).toList := by
  rw [powers_eq, powerReading?_of_field first.leftmost?]
  cases readDecimal? (digits.drop (leadingZeros digits)) <;> rfl

theorem readDecimal?_drop_iff {digits : List Char} (nonempty : digits ≠ [])
    {watts : Nat} :
    readDecimal? (digits.drop (leadingZeros digits)) = some watts ↔
      (∀ c ∈ digits, c.isDigit = true) ∧ digitsValue digits = watts ∧
        watts < uint64Limit := by
  rw [readDecimal?, bounded_eq_some_iff, all_isDigit_drop, digitsValue_drop,
    and_iff_right (drop_leadingZeros_ne_nil nonempty)]

/--
Of the fields of watts on a line the first is read, if its digits are ASCII ones
and its value has 64 bits.  Its readout has as many columns as the field, with
blanks for the leading zeros, and shows the same number.
-/
theorem power_of_first_field (line : String) :
    ((∀ place digits, ¬ IsPowerField line.toList place digits) →
        powers line = []) ∧
      ((∃ place digits, IsPowerField line.toList place digits) →
        ∃ place digits, IsFirstPowerField line.toList place digits) ∧
      ∀ place digits, IsFirstPowerField line.toList place digits →
        ((∀ c ∈ digits, c.isDigit = true) → digitsValue digits < 2 ^ 64 →
          ∃ padding, powers line = [(digitsValue digits, padding)] ∧
            (∀ dashboard : Dashboard,
              (dashboard.apply (.power (digitsValue digits)
                padding)).readouts.get? .watts =
                  some (String.ofList (blanked digits))) ∧
            (blanked digits).length = digits.length ∧
            digitsValue ((blanked digits).dropWhile (· == ' ')) =
              digitsValue digits) ∧
        ((∃ c ∈ digits, c.isDigit = false) ∨ 2 ^ 64 ≤ digitsValue digits →
          powers line = []) := by
  refine ⟨fun no_field => ?_, ?_, fun place digits first => ⟨?_, ?_⟩⟩
  · have unread : leftmost? powerField? line.toList = none := by
      by_contra read
      obtain ⟨digits, read⟩ := Option.ne_none_iff_exists'.mp read
      obtain ⟨place, first⟩ := exists_first_powerField read
      exact no_field place digits first.isField
    rw [powers_eq, powerReading?, unread]
    rfl
  · rintro ⟨place, digits, field⟩
    obtain ⟨found, read⟩ := Option.isSome_iff_exists.mp
      (leftmost?_powerField_isSome field)
    obtain ⟨other, first⟩ := exists_first_powerField read
    exact ⟨other, found, first⟩
  · intro all small
    have nonempty := first.isField.isRow.1
    have read := (readDecimal?_drop_iff nonempty).mpr ⟨all, rfl, small⟩
    refine ⟨leadingZeros digits, ?_, fun dashboard => ?_,
      length_blanked digits, digitsValue_blanked all⟩
    · rw [powers_of_first first, read]
      rfl
    · rw [← powerText_eq nonempty all]
      rfl
  · intro unusable
    have unread : readDecimal? (digits.drop (leadingZeros digits)) = none := by
      by_contra read
      obtain ⟨watts, read⟩ := Option.ne_none_iff_exists'.mp read
      obtain ⟨all, rfl, small⟩ :=
        (readDecimal?_drop_iff first.isField.isRow.1).mp read
      rcases unusable with ⟨c, member, other⟩ | large
      · rw [all c member] at other
        cases other
      · exact absurd small (Nat.not_lt.mpr large)
    rw [powers_of_first first, unread]
    rfl

/-- A field that breaks off comes before the first one that is complete. -/
def brokenOffLine : String :=
  "<ch1><watts>9<ch1><watts>00000</watts></ch1><ch1><watts>7</watts></ch1>"

theorem power_behind_broken_field :
    ∃ place padding,
      IsFirstPowerField brokenOffLine.toList place "00000".toList ∧
        powers brokenOffLine = [(0, padding)] ∧
        ∀ dashboard : Dashboard,
          (dashboard.apply (.power 0 padding)).readouts.get? .watts =
            some "    0" := by
  have read : leftmost? powerField? brokenOffLine.toList =
      some "00000".toList := by
    decide +kernel
  obtain ⟨place, first⟩ := exists_first_powerField read
  have usable := ((power_of_first_field brokenOffLine).2.2 place _ first).1
  obtain ⟨padding, single, shown, -, -⟩ :=
    usable (List.all_eq_true.mp rfl) (by decide)
  exact ⟨place, padding, first, single, shown⟩

/-- A digit of another script makes the field unusable, not unrecognised. -/
example : powers "<ch1><watts>00٣</watts></ch1>" = [] ∧
    isRecognised "<ch1><watts>00٣</watts></ch1>" = true := by
  decide +kernel

end MeterWatch.Line
