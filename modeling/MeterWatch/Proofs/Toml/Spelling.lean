import MeterWatch.Proofs.Decimal.Plain
import MeterWatch.Proofs.Toml.Kept

/-!
# How keys and values are spelled

A key or a string may be spelled in many ways, and a number as an integer or
with a fraction or an exponent.  Whatever is spelled is read as what it spells.
-/

namespace MeterWatch.Toml

open Json (IsDigits IsWhole IsFraction IsExponent)

/-! ## Strings -/

/-- The letters behind a backslash that stand for a character. -/
def shortEscapes : List (Char × Char) :=
  [('b', '\x08'), ('t', '\t'), ('n', '\n'), ('f', '\x0c'), ('r', '\r'),
    ('"', '"'), ('\\', '\\')]

/-- The marks of escapes with a number, and how many digits it has. -/
def numberedEscapes : List (Char × Nat) := [('u', 4), ('U', 8)]

/-- The content of a basic string and its spelling, with the closing quote. -/
inductive IsBasic : List Char → List Char → Prop where
  | close : IsBasic [] ['"']
  | plain {c : Char} {content text : List Char} (inLine : isLineChar c = true)
      (notQuote : c ≠ '"') (notEscape : c ≠ '\\') (h : IsBasic content text) :
      IsBasic (c :: content) (c :: text)
  | short {letter c : Char} {content text : List Char}
      (escape : (letter, c) ∈ shortEscapes) (h : IsBasic content text) :
      IsBasic (c :: content) ('\\' :: letter :: text)
  | numbered {mark c : Char} {size : Nat} {digits content text : List Char}
      (escape : (mark, size) ∈ numberedEscapes) (length : digits.length = size)
      (hex : ∀ digit ∈ digits, isHexDigit digit = true)
      (value : hexValue digits = c.toNat) (h : IsBasic content text) :
      IsBasic (c :: content) ('\\' :: mark :: (digits ++ text))

theorem simpleEscape?_short {letter c : Char}
    (escape : (letter, c) ∈ shortEscapes) (rest : List Char) :
    Toml.escape (letter :: rest) = some (c, rest) := by
  simp only [shortEscapes, List.mem_cons, Prod.mk.injEq, List.not_mem_nil,
    or_false] at escape
  rcases escape with ⟨rfl, rfl⟩ | ⟨rfl, rfl⟩ | ⟨rfl, rfl⟩ | ⟨rfl, rfl⟩ |
    ⟨rfl, rfl⟩ | ⟨rfl, rfl⟩ | ⟨rfl, rfl⟩ <;> rfl

theorem charOfNat?_toNat (c : Char) : charOfNat? c.toNat = some c := by
  have valid : c.toNat.isValidChar := c.valid
  rw [charOfNat?, if_pos valid, Char.ofNat_toNat]

theorem numberedEscape_digits {digits : List Char} {c : Char}
    (hex : ∀ digit ∈ digits, isHexDigit digit = true)
    (value : hexValue digits = c.toNat) (rest : List Char) :
    numberedEscape digits.length (digits ++ rest) = some (c, rest) := by
  have all : digits.all isHexDigit = true := List.all_eq_true.mpr hex
  simp [numberedEscape, all, value, charOfNat?_toNat]

theorem escape_numbered {mark c : Char} {size : Nat} {digits : List Char}
    (escape : (mark, size) ∈ numberedEscapes) (length : digits.length = size)
    (hex : ∀ digit ∈ digits, isHexDigit digit = true)
    (value : hexValue digits = c.toNat) (rest : List Char) :
    Toml.escape (mark :: (digits ++ rest)) = some (c, rest) := by
  have read := numberedEscape_digits hex value rest
  rw [length] at read
  simp only [numberedEscapes, List.mem_cons, Prod.mk.injEq, List.not_mem_nil,
    or_false] at escape
  rcases escape with ⟨rfl, rfl⟩ | ⟨rfl, rfl⟩ <;> exact read

theorem IsBasic.basicWithin {content text : List Char}
    (h : IsBasic content text) {fuel : Nat} (enough : text.length ≤ fuel)
    (reversed rest : List Char) :
    Toml.basicWithin fuel reversed (text ++ rest) =
      some (reversed.reverse ++ content, rest) := by
  induction h generalizing fuel reversed with
  | close =>
      obtain ⟨fuel, rfl⟩ := Nat.exists_eq_add_of_le' enough
      simp [Toml.basicWithin]
  | plain inLine notQuote notEscape _ ih =>
      obtain ⟨fuel, rfl⟩ := Nat.exists_eq_add_of_le'
        (Nat.le_trans (by simp : 1 ≤ _) enough)
      rw [List.cons_append, Toml.basicWithin, if_neg notQuote,
        if_neg notEscape, if_pos inLine, ih (by simpa using enough)]
      simp
  | short escape _ ih =>
      obtain ⟨fuel, rfl⟩ := Nat.exists_eq_add_of_le'
        (Nat.le_trans (by simp : 1 ≤ _) enough)
      rw [List.cons_append, List.cons_append, Toml.basicWithin,
        if_neg (by decide), if_pos rfl, simpleEscape?_short escape]
      dsimp only
      rw [ih (by simp at enough; omega)]
      simp
  | numbered escape length hex value _ ih =>
      obtain ⟨fuel, rfl⟩ := Nat.exists_eq_add_of_le'
        (Nat.le_trans (by simp : 1 ≤ _) enough)
      rw [List.cons_append, List.cons_append, List.append_assoc,
        Toml.basicWithin, if_neg (by decide), if_pos rfl,
        escape_numbered escape length hex value]
      dsimp only
      rw [ih (by simp at enough; omega)]
      simp

theorem IsBasic.basicString {content text : List Char}
    (h : IsBasic content text) (rest : List Char) :
    Toml.basicString (text ++ rest) = some (content, rest) :=
  h.basicWithin (by simp; omega) [] rest

theorem IsBasic.not_isDoubled {content text : List Char}
    (h : IsBasic content text) : ¬ IsDoubled '"' text := by
  rintro ⟨rest, starts⟩
  cases h with
  | close => cases starts
  | plain _ notQuote _ _ => exact notQuote (List.cons.inj starts).1
  | short => cases (List.cons.inj starts).1
  | numbered => cases (List.cons.inj starts).1

theorem IsBasic.value {content text : List Char} (h : IsBasic content text) :
    Toml.value ('"' :: text) = some (.string content, []) := by
  have read := h.basicString []
  rw [List.append_nil] at read
  change ((string ('"' :: text)).bind fun content =>
    some (Value.string content.1, content.2)) = _
  rw [string_basic h.not_isDoubled, read]
  rfl

/-! ## Keys -/

/-- A key and its spelling: bare, or a string on one line. -/
inductive IsKey : Key → List Char → Prop where
  | bare {key : Key} (nonempty : key ≠ [])
      (all : ∀ c ∈ key, isBareKeyChar c = true) : IsKey key key
  | basic {key text : List Char} (h : IsBasic key text) :
      IsKey key ('"' :: text)
  | literal {key : Key} (all : ∀ c ∈ key, isLiteralChar c = true) :
      IsKey key ('\'' :: (key ++ ['\'']))

def EndsKey (rest : List Char) : Prop :=
  ∀ c ∈ rest.head?, isBareKeyChar c = false

theorem IsKey.simpleKey {key text rest : List Char} (h : IsKey key text)
    (ends : EndsKey rest) :
    Toml.simpleKey (text ++ rest) = some (key, rest) := by
  cases h with
  | bare nonempty all =>
      obtain ⟨c, others, rfl⟩ := List.exists_cons_of_ne_nil nonempty
      have stops : rest.takeWhile isBareKeyChar = [] ∧
          rest.dropWhile isBareKeyChar = rest := by
        cases rest with
        | nil => exact ⟨rfl, rfl⟩
        | cons d rest => simp [ends d rfl]
      rw [List.cons_append, simpleKey_bare (all c List.mem_cons_self),
        ← List.cons_append, List.takeWhile_append_of_pos all,
        List.dropWhile_append_of_pos all, stops.1, stops.2, List.append_nil]
  | basic basic => exact basic.basicString rest
  | literal all =>
      have behind : (key ++ '\'' :: rest).dropWhile isLiteralChar =
          '\'' :: rest := by
        rw [List.dropWhile_append_of_pos all]
        rfl
      have inside : (key ++ '\'' :: rest).takeWhile isLiteralChar = key := by
        rw [List.takeWhile_append_of_pos all,
          List.takeWhile_cons_of_neg (by decide), List.append_nil]
      change literalString (key ++ ['\''] ++ rest) = _
      rw [List.append_assoc, List.singleton_append, literalString, behind,
        inside]
      rfl

theorem IsKey.head {key text : List Char} (h : IsKey key text) :
    ∃ c rest, text = c :: rest ∧
      (isBareKeyChar c = true ∨ c = '"' ∨ c = '\'') := by
  cases h with
  | bare nonempty all =>
      obtain ⟨c, others, rfl⟩ := List.exists_cons_of_ne_nil nonempty
      exact ⟨c, others, rfl, .inl (all c List.mem_cons_self)⟩
  | basic h => exact ⟨_, _, rfl, .inr (.inl rfl)⟩
  | literal h => exact ⟨_, _, rfl, .inr (.inr rfl)⟩

/-! ## Paths -/

def IsBlanks (text : List Char) : Prop := ∀ c ∈ text, isBlank c = true

theorem IsBlanks.skip {blanks : List Char} (h : IsBlanks blanks)
    (rest : List Char) : skipBlanks (blanks ++ rest) = skipBlanks rest :=
  List.dropWhile_append_of_pos h

/-- Keys between points, with blanks around each. -/
inductive IsPath : List Key → List Char → Prop where
  | last {key before text after : List Char} (blank : IsBlanks before)
      (h : IsKey key text) (blank' : IsBlanks after) :
      IsPath [key] (before ++ (text ++ after))
  | more {key before text after inner : List Char} {path : List Key}
      (blank : IsBlanks before) (h : IsKey key text)
      (blank' : IsBlanks after) (h' : IsPath path inner) :
      IsPath (key :: path) (before ++ (text ++ (after ++ '.' :: inner)))

theorem skipBlanks_key {key text : List Char} (h : IsKey key text)
    (rest : List Char) : skipBlanks (text ++ rest) = text ++ rest := by
  obtain ⟨c, others, rfl, first⟩ := h.head
  have visible : isBlank c = false := by
    by_contra blank
    rw [Bool.not_eq_false, isBlank, Bool.or_eq_true, beq_iff_eq,
      beq_iff_eq] at blank
    rcases blank with rfl | rfl <;> rcases first with bare | quote | quote <;>
      first | cases bare | cases quote
  exact List.dropWhile_cons_of_neg (by simp [visible])

theorem endsKey_blanks {blanks rest : List Char} (h : IsBlanks blanks)
    (ends : EndsKey rest) : EndsKey (blanks ++ rest) := by
  cases blanks with
  | nil => exact ends
  | cons c others =>
      rintro _ ⟨⟩
      have blank := h c List.mem_cons_self
      rw [isBlank, Bool.or_eq_true, beq_iff_eq, beq_iff_eq] at blank
      rcases blank with rfl | rfl <;> rfl

/-- Paths end in front of an equals sign or of a bracket. -/
theorem IsPath.keysWithin {path : List Key} {text : List Char}
    (h : IsPath path text) {fuel : Nat} (enough : path.length ≤ fuel)
    {c : Char} (mark : c = '=' ∨ c = ']') (rest : List Char) :
    Toml.keysWithin fuel (text ++ c :: rest) = some (path, c :: rest) := by
  have stop : EndsKey (c :: rest) := by
    rintro _ ⟨⟩
    rcases mark with rfl | rfl <;> rfl
  have stays : skipBlanks (c :: rest) = c :: rest := by
    rcases mark with rfl | rfl <;> rfl
  have not_point : c ≠ '.' := by rcases mark with rfl | rfl <;> decide
  induction h generalizing fuel with
  | @last key before text after blank spelled blank' =>
      obtain ⟨fuel, rfl⟩ := Nat.exists_eq_add_of_le' (show 1 ≤ fuel from enough)
      rw [List.append_assoc, List.append_assoc, Toml.keysWithin,
        blank.skip, skipBlanks_key spelled,
        spelled.simpleKey (endsKey_blanks blank' stop)]
      dsimp only [Option.bind_eq_bind, Option.bind_some]
      rw [blank'.skip, stays]
      split
      · next point => exact absurd (List.cons.inj point).1 not_point
      · rfl
  | @more key before text after inner path blank spelled blank' _ ih =>
      obtain ⟨fuel, rfl⟩ := Nat.exists_eq_add_of_le'
        (Nat.le_trans (by simp : 1 ≤ _) enough)
      have point : EndsKey ('.' :: (inner ++ c :: rest)) := by
        rintro _ ⟨⟩
        rfl
      have next : skipBlanks ('.' :: (inner ++ c :: rest)) =
          '.' :: (inner ++ c :: rest) := rfl
      simp only [List.append_assoc, List.cons_append]
      rw [Toml.keysWithin, blank.skip, skipBlanks_key spelled,
        spelled.simpleKey (endsKey_blanks blank' point)]
      dsimp only [Option.bind_eq_bind, Option.bind_some]
      rw [blank'.skip, next]
      change ((Toml.keysWithin fuel (inner ++ c :: rest)).bind fun found =>
        some (key :: found.1, found.2)) = _
      rw [ih (by simpa using enough)]
      rfl

/-! ## Digits -/

/-- What goes on with a number behind its leading digits. -/
def EndsDigits (rest : List Char) : Prop :=
  ∀ c ∈ rest.head?, c = '.' ∨ c = 'e' ∨ c = 'E'

theorem endsDigits_nil : EndsDigits [] := by simp [EndsDigits]

theorem EndsDigits.not_digit {rest : List Char} (ends : EndsDigits rest) :
    ∀ c ∈ rest.head?, c.isDigit = false := by
  intro c first
  rcases ends c first with rfl | rfl | rfl <;> rfl

theorem moreDigits_run {run rest : List Char}
    (all : ∀ c ∈ run, c.isDigit = true) (ends : EndsDigits rest) :
    moreDigits Char.isDigit (run ++ rest) = some (run, rest) := by
  induction run with
  | nil =>
      cases rest with
      | nil => rfl
      | cons c rest =>
          have single : c ≠ '_' := by
            rcases ends c rfl with rfl | rfl | rfl <;> decide
          rw [List.nil_append, moreDigits_cons single,
            if_neg (by simp [ends.not_digit c rfl])]
  | cons c run ih =>
      obtain ⟨digit, others⟩ := List.forall_mem_cons.mp all
      have single : c ≠ '_' := by
        rintro rfl
        cases digit
      rw [List.cons_append, moreDigits_cons single, if_pos digit, ih others]
      rfl

theorem digits_run {run rest : List Char} (h : IsDigits run)
    (ends : EndsDigits rest) :
    digits Char.isDigit (run ++ rest) = some (run, rest) := by
  obtain ⟨c, others, rfl⟩ := List.exists_cons_of_ne_nil h.1
  obtain ⟨digit, all⟩ := List.forall_mem_cons.mp h.2
  rw [List.cons_append, digits, if_pos digit, moreDigits_run all ends]
  rfl

theorem wholeDigits_whole {whole rest : List Char} (h : IsWhole whole)
    (ends : EndsDigits rest) :
    wholeDigits (whole ++ rest) = some (whole, rest) := by
  cases h with
  | zero => rfl
  | positive h leading =>
      have read := digits_run h ends
      obtain ⟨c, others, rfl⟩ := List.exists_cons_of_ne_nil h.1
      have nonzero : c ≠ '0' := by
        rintro rfl
        exact leading rfl
      rw [← read]
      simp [wholeDigits, nonzero]

theorem splitSign_digits (negative : Bool) {run : List Char}
    (h : IsDigits run) (rest : List Char) :
    splitSign (signText negative ++ (run ++ rest)) =
      (negative, run ++ rest) := by
  obtain ⟨c, others, rfl⟩ := List.exists_cons_of_ne_nil h.1
  have digit := h.2 c List.mem_cons_self
  cases negative with
  | true => rfl
  | false =>
      have minus : c ≠ '-' := by
        rintro rfl
        cases digit
      have plus : c ≠ '+' := by
        rintro rfl
        cases digit
      simp [signText, splitSign, minus, plus]

/-! ## Numbers are no times -/

theorem expect_none {mark : Char} {text : List Char}
    (other : text.head? ≠ some mark) : expect mark text = none := by
  cases text with
  | nil => rfl
  | cons c rest => exact if_neg fun same => other (congrArg some same)

/-- Neither a date nor a time goes on with a digit where a mark must stand. -/
theorem numberBetween_expect {run rest : List Char}
    (all : ∀ c ∈ run, c.isDigit = true) (ends : EndsDigits rest)
    {size low high number : Nat} {left : List Char}
    (read : numberBetween size low high (run ++ rest) = some (number, left))
    {mark : Char} (mark_eq : mark = '-' ∨ mark = ':') :
    expect mark left = none := by
  simp only [numberBetween] at read
  split at read
  · next complete =>
      obtain ⟨-, rfl⟩ := Prod.mk.inj (Option.some.inj read)
      have short : size ≤ run.length := by
        by_contra long
        -- The number would take in what goes on behind the digits.
        obtain ⟨more, more_eq⟩ : ∃ more, size - run.length = more + 1 :=
          ⟨size - run.length - 1, by omega⟩
        obtain ⟨length, digits, -⟩ := complete
        rw [List.take_append, more_eq] at length digits
        cases rest with
        | nil =>
            simp at length
            omega
        | cons c others =>
            rw [List.take_succ_cons, List.all_append, List.all_cons,
              ends.not_digit c rfl] at digits
            simp at digits
      rw [List.drop_append_of_le_length short]
      refine expect_none fun starts => ?_
      rw [List.head?_append] at starts
      cases left : (run.drop size).head? with
      | none =>
          rw [left, Option.none_or] at starts
          rcases ends mark starts with rfl | rfl | rfl <;>
            rcases mark_eq with same | same <;> cases same
      | some c =>
          rw [left] at starts
          obtain rfl : c = mark := Option.some.inj starts
          have digit := all c
            (List.mem_of_mem_drop (List.mem_of_mem_head? left))
          rcases mark_eq with rfl | rfl <;> cases digit
  · cases read

theorem time?_digits {run rest : List Char}
    (all : ∀ c ∈ run, c.isDigit = true) (ends : EndsDigits rest) :
    time? (run ++ rest) = none := by
  have no_date : date? (run ++ rest) = none := by
    unfold date?
    cases read : numberBetween 4 0 9999 (run ++ rest) with
    | none => rfl
    | some found =>
        have stuck := numberBetween_expect all ends read (.inl rfl)
        change (expect '-' found.2).bind _ = none
        rw [stuck]
        rfl
  have no_time : timeOfDay? (run ++ rest) = none := by
    unfold timeOfDay?
    cases read : numberBetween 2 0 23 (run ++ rest) with
    | none => rfl
    | some found =>
        have stuck := numberBetween_expect all ends read (.inr rfl)
        change (expect ':' found.2).bind _ = none
        rw [stuck]
        rfl
  rw [time?, dateTime?, no_date, no_time]
  rfl

theorem time?_not_digit {c : Char} (other : c.isDigit = false)
    (text : List Char) : time? (c :: text) = none := by
  have unread (size low high : Nat) :
      numberBetween (size + 1) low high (c :: text) = none := by
    rw [numberBetween, List.take_succ_cons]
    simp [other]
  rw [time?, dateTime?, date?, timeOfDay?, unread, unread]
  rfl

theorem time?_number (negative : Bool) {run rest : List Char}
    (h : IsDigits run) (ends : EndsDigits rest) :
    time? (signText negative ++ (run ++ rest)) = none := by
  cases negative with
  | true => exact time?_not_digit rfl _
  | false => exact (time?_digits h.2 ends :)

/-! ## Whole numbers -/

theorem namedReal_digits (negative : Bool) {run : List Char}
    (h : IsDigits run) (rest : List Char) :
    namedReal (signText negative ++ (run ++ rest)) = none := by
  simp only [namedReal, splitSign_digits negative h]
  obtain ⟨c, others, rfl⟩ := List.exists_cons_of_ne_nil h.1
  have digit := h.2 c List.mem_cons_self
  split
  · next starts =>
      rw [(List.cons.inj starts).1] at digit
      cases digit
  · next starts =>
      rw [(List.cons.inj starts).1] at digit
      cases digit
  · rfl

theorem real_whole (negative : Bool) {whole : List Char}
    (h : IsWhole whole) : real (signText negative ++ whole) = none := by
  have named := namedReal_digits negative h.isDigits []
  have sign := splitSign_digits negative h.isDigits []
  have digits := wholeDigits_whole h endsDigits_nil
  rw [List.append_nil] at named sign digits
  have infinite : finiteReal (signText negative ++ whole) = none := by
    simp only [finiteReal, sign, digits]
    rfl
  rw [real, infinite, named]
  rfl

def signed (negative : Bool) (size : Nat) : Int :=
  if negative then -size else size

theorem integer_whole (negative : Bool) {whole : List Char}
    (h : IsWhole whole) :
    integer (signText negative ++ whole) =
      (int64? (signed negative (digitsValue whole))).map (·, []) := by
  have sign := splitSign_digits negative h.isDigits []
  have digits := wholeDigits_whole h endsDigits_nil
  rw [List.append_nil] at sign digits
  rw [integer_eq_decimalInteger, decimalInteger, sign]
  · dsimp only
    rw [digits]
    dsimp only [Option.bind_eq_bind, Option.bind_some, signed]
    cases int64? _ <;> rfl
  · intro mark member rest starts
    have other : mark.isDigit = false := by
      simp only [List.mem_cons, List.not_mem_nil, or_false] at member
      rcases member with rfl | rfl | rfl <;> rfl
    cases negative with
    | true => cases (List.cons.inj starts).1
    | false =>
        have digit := h.isDigits.2 mark (by
          rw [show whole = '0' :: mark :: rest from starts]
          simp)
        rw [other] at digit
        cases digit

theorem value_numeric (negative : Bool) {run : List Char} (h : IsDigits run)
    (rest : List Char) :
    value (signText negative ++ (run ++ rest)) =
      numeric (signText negative ++ (run ++ rest)) := by
  have numerals {c : Char} (first : c.isDigit = true ∨ c = '-')
      (text : List Char) : value (c :: text) = numeric (c :: text) := by
    have other : ∀ mark ∈ ['[', '\x7b', '"', '\'', 't', 'f'], c ≠ mark := by
      rintro mark member rfl
      simp only [List.mem_cons, List.not_mem_nil, or_false] at member
      rcases member with rfl | rfl | rfl | rfl | rfl | rfl <;>
        rcases first with same | same <;> cases same
    simp only [List.forall_mem_cons] at other
    obtain ⟨bracket, brace, quote, apostrophe, small_t, small_f, -⟩ := other
    have bare : opensContainer c = false := by
      simp [opensContainer, bracket, brace]
    rw [value, valueWithin_scalar 79 bare, scalar.eq_5]
    all_goals
      rintro behind starts
      have first := (List.cons.inj starts).1
      contradiction
  cases negative with
  | true => exact numerals (.inr rfl) (run ++ rest)
  | false =>
      obtain ⟨c, others, rfl⟩ := List.exists_cons_of_ne_nil h.1
      exact numerals (.inl (h.2 c List.mem_cons_self)) (others ++ rest)

theorem value_blank {c : Char} (blank : isBlank c = true) (text : List Char) :
    value (c :: text) = none := by
  rw [isBlank, Bool.or_eq_true, beq_iff_eq, beq_iff_eq] at blank
  have no_time : time? (c :: text) = none :=
    time?_not_digit (by rcases blank with rfl | rfl <;> rfl) text
  have no_real : real (c :: text) = none := by
    rcases blank with rfl | rfl <;> rfl
  have no_integer : integer (c :: text) = none := by
    rcases blank with rfl | rfl <;> rfl
  have unread : value (c :: text) = numeric (c :: text) := by
    rcases blank with rfl | rfl <;> rfl
  rw [unread, numeric, no_time]
  dsimp only
  rw [no_real, no_integer]
  rfl

/-- The whole numbers of 64 bits. -/
def IsInt64 (n : Int) : Prop := -0x8000000000000000 ≤ n ∧ n < 0x8000000000000000

theorem value_integer {n : Int} (h : IsInt64 n) :
    value (toString n).toList = some (.integer n, []) := by
  obtain ⟨positional_eq, whole⟩ :=
    @Decimal.positional_of_nonneg ⟨n.natAbs, 0⟩ le_rfl fun _ => rfl
  have digits : digitsValue (Decimal.positional ⟨n.natAbs, 0⟩) = n.natAbs := by
    rw [positional_eq, digitsValue_eq]
    simp
  have size : signed (n < 0) n.natAbs = n := by
    rw [signed]
    split
    · next negative =>
        have below : n < 0 := of_decide_eq_true negative
        omega
    · next nonneg =>
        have above : ¬ n < 0 := fun below => nonneg (decide_eq_true below)
        omega
  have in_range : int64? n = some n := if_pos h
  have no_time := time?_number (n < 0) whole.isDigits endsDigits_nil
  have numerals := value_numeric (n < 0) whole.isDigits []
  rw [List.append_nil] at no_time numerals
  rw [Json.toList_toString, numerals, numeric, no_time]
  dsimp only
  rw [real_whole _ whole, integer_whole _ whole, digits, size, in_range]
  rfl

/-! ## Other numbers -/

/-- A spelling of the shortest decimal of a number, other than as an integer. -/
inductive IsReal : Binary64 → List Char → Prop where
  | spelled {negative : Bool} {rank : Nat} {h : rank < Binary64.rankLimit}
      {whole fraction exponent : List Char} (hwhole : IsWhole whole)
      (hfraction : IsFraction fraction) (hexponent : IsExponent exponent)
      (unlike : fraction ++ exponent ≠ [])
      (value : (Numeral.decimal ⟨negative, whole, fraction.tail,
        Numeral.exponentOf exponent⟩).value =
          (Binary64.decimal rank).value) :
      IsReal (.finite negative rank h)
        (signText negative ++ (whole ++ (fraction ++ exponent)))

theorem exponent_some {mark : Char} {sign run : List Char}
    (hmark : mark ∈ ['e', 'E']) (hsign : sign ∈ [[], ['+'], ['-']])
    (h : IsDigits run) :
    Toml.exponent (mark :: (sign ++ run)) =
      some (Numeral.exponentOf (mark :: (sign ++ run)), []) := by
  have marked : Numeral.isExponentMark mark = true := by
    simpa [Numeral.isExponentMark] using hmark
  have read := digits_run h endsDigits_nil
  rw [List.append_nil] at read
  have sign_eq : splitSign (sign ++ run) = (sign == ['-'], run) := by
    have unsigned := splitSign_digits false h []
    rw [List.append_nil] at unsigned
    simp only [List.mem_cons, List.not_mem_nil, or_false] at hsign
    rcases hsign with rfl | rfl | rfl
    · exact unsigned
    · rfl
    · rfl
  rw [Numeral.exponentOf, Numeral.exponent?_some hmark hsign h,
    Option.getD_some, Toml.exponent, if_pos marked, sign_eq]
  dsimp only
  rw [read]
  simp [digitsValue_eq]

theorem endsDigits_parts {fraction exponent : List Char}
    (hfraction : IsFraction fraction) (hexponent : IsExponent exponent) :
    EndsDigits (fraction ++ exponent) := by
  cases hfraction with
  | some => rintro _ ⟨⟩; exact .inl rfl
  | none =>
      cases hexponent with
      | none => exact endsDigits_nil
      | some hmark =>
          rintro _ ⟨⟩
          simp only [List.mem_cons, List.not_mem_nil, or_false] at hmark
          exact .inr hmark

theorem fractionAndExponent_parts {fraction exponent : List Char}
    (hfraction : IsFraction fraction) (hexponent : IsExponent exponent)
    (unlike : fraction ++ exponent ≠ []) :
    fractionAndExponent (fraction ++ exponent) =
      some ((fraction.tail, Numeral.exponentOf exponent), []) := by
  cases hfraction with
  | none =>
      cases hexponent with
      | none => exact absurd rfl unlike
      | @some mark sign run hmark hsign hdigits =>
          have no_fraction : fraction (mark :: (sign ++ run)) = none := by
            simp only [List.mem_cons, List.not_mem_nil, or_false] at hmark
            rcases hmark with rfl | rfl <;> rfl
          rw [List.nil_append, fractionAndExponent, no_fraction]
          dsimp only
          rw [exponent_some hmark hsign hdigits]
          rfl
  | @some run hdigits =>
      have read : fraction ('.' :: run ++ exponent) = some (run, exponent) :=
        digits_run hdigits (endsDigits_parts .none hexponent)
      rw [fractionAndExponent, read]
      dsimp only
      cases hexponent with
      | none => rfl
      | some hmark hsign hdigits =>
          rw [exponent_some hmark hsign hdigits]
          rfl

theorem IsReal.value {number : Binary64} {text : List Char}
    (h : IsReal number text) : Toml.value text = some (.real number, []) := by
  cases h with
  | @spelled negative rank rank_lt whole fraction exponent hwhole hfraction
      hexponent unlike value =>
      have ends := endsDigits_parts hfraction hexponent
      have nearest : Numeral.value ⟨negative, whole, fraction.tail,
          Numeral.exponentOf exponent⟩ = .finite negative rank rank_lt := by
        rw [Numeral.value, Binary64.ofDecimal_eq_ofRank,
          Binary64.rankOfDecimal_congr value, Binary64.rankOfDecimal_decimal,
          Binary64.ofRank_of_lt _ rank_lt]
      have finite : finiteReal (signText negative ++
          (whole ++ (fraction ++ exponent))) =
          some (.finite negative rank rank_lt, []) := by
        rw [finiteReal, splitSign_digits negative hwhole.isDigits]
        dsimp only
        rw [wholeDigits_whole hwhole ends]
        dsimp only [Option.bind_eq_bind, Option.bind_some]
        rw [fractionAndExponent_parts hfraction hexponent unlike]
        dsimp only [Option.bind_some]
        rw [nearest]
        rfl
      rw [value_numeric negative hwhole.isDigits, numeric,
        time?_number negative hwhole.isDigits ends, real, finite]
      rfl

/-- Whether a number is a whole one, of either sign. -/
def IsWholeNumber (number : Binary64) : Prop :=
  ∃ n : Int, number = .ofInt n ∨ number = -.ofInt n

theorem isWholeNumber_of_exponent (negative : Bool) {rank : Nat}
    (rank_lt : rank < Binary64.rankLimit)
    (nonneg : 0 ≤ (Binary64.decimal rank).exponent) :
    IsWholeNumber (.finite negative rank rank_lt) := by
  have den : (Binary64.decimal rank).den = 1 := by
    have none : (-(Binary64.decimal rank).exponent).toNat = 0 := by omega
    rw [Decimal.den, none]
  have whole : Binary64.ofInt (Binary64.decimal rank).num =
      .finite false rank rank_lt := by
    have rank_eq := Binary64.rankOfDecimal_decimal rank
    rw [Binary64.rankOfDecimal, den] at rank_eq
    have not_negative : ¬ ((Binary64.decimal rank).num : Int) < 0 := by omega
    rw [Binary64.ofInt, Binary64.ofRatio, Binary64.ofUnits, Int.natAbs_natCast,
      rank_eq, Binary64.ofRank_of_lt _ rank_lt, decide_eq_false not_negative]
  refine ⟨(Binary64.decimal rank).num, ?_⟩
  rw [whole]
  cases negative with
  | false => exact .inl rfl
  | true => exact .inr rfl

/-- Numbers that are not whole are displayed with a fraction. -/
theorem isReal_plain {number : Binary64} (finite : number.isFinite = true)
    (broken : ¬ IsWholeNumber number) : IsReal number number.plain.toList := by
  cases number with
  | nan | infinite => cases finite
  | finite negative rank rank_lt =>
      have below : (Binary64.decimal rank).exponent < 0 := by
        by_contra nonneg
        exact broken (isWholeNumber_of_exponent negative rank_lt (by omega))
      have exponent_eq : (0 : Int) -
          (Binary64.decimal rank).fractionDigits.length =
            (Binary64.decimal rank).exponent := by
        rw [Decimal.fractionDigits_length]
        omega
      rw [Binary64.plain_toList, Decimal.positional_of_negative below,
        ← List.append_nil ('.' :: _)]
      refine .spelled (Decimal.wholeDigits_isWhole below)
        (.some (Decimal.fractionDigits_isDigits below)) .none (by simp) ?_
      simp only [Numeral.decimal, List.tail_cons, Decimal.wholeDigits_append,
        digitsValue_eq, Decimal.paddedDigits_value, Numeral.exponentOf_nil,
        exponent_eq]

end MeterWatch.Toml
