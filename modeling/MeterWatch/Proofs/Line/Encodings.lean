import MeterWatch.Line.Decode
import MeterWatch.Proofs.Line.Pattern

/-!
# The encodings of fields

Five kinds of fields stand in a log, and each is a language.  A line is
recognised exactly if it holds a word of one of them, wherever that word starts
and whatever stands around it.
-/

namespace MeterWatch.Line

open Text (isBlank isDecimalDigit)

/-! ## Languages -/

def digitOr (marks : List Char) (c : Char) : Bool :=
  marks.contains c || isDecimalDigit c

namespace Encoding

def power : Language Char :=
  literal "<ch1><watts>" * someOf isDecimalDigit * literal "</watts></ch1>"

def temperature : Language Char :=
  literal "<tmpr>" * manyOf (· == ' ') * someOf (digitOr ['-', '.']) *
    literal "</tmpr>"

def clock : Language Char :=
  literal "<time>" * someOf (digitOr ['-', ':']) * literal "</time>"

def number : Language Char :=
  literal "0x" * someOf isHexDigit + someOf isDecimalDigit

def element (name : String) : Language Char :=
  literal ("<" ++ name ++ ">") * manyOf isBlank * number * manyOf isBlank *
    literal ("</" ++ name ++ ">")

/-- Elements do not all need to stand on one line, but gaps do. -/
def gap : Language Char := manyOf (· != '\n')

def demand : Language Char :=
  literal "<InstantaneousDemand>" * gap * element "TimeStamp" * gap *
    element "Demand" * gap * element "Multiplier" * gap * element "Divisor"

def climate : Language Char :=
  literal "temperature=" * someOf (digitOr ['-', '+', '.', 'e', 'E']) *
    literal "," * manyOf isBlank * literal "relative_humidity=" *
    someOf (digitOr ['-', '+', '.', 'e', 'E'])

end Encoding

/-! ## Classes -/

theorem isTemperatureChar_eq : isTemperatureChar = digitOr ['-', '.'] := by
  funext c
  simp [isTemperatureChar, digitOr, beq_eq_decide]

theorem isClockChar_eq : isClockChar = digitOr ['-', ':'] := by
  funext c
  simp [isClockChar, digitOr, beq_eq_decide]

theorem isClimateChar_eq :
    isClimateChar = digitOr ['-', '+', '.', 'e', 'E'] := by
  funext c
  simp [isClimateChar, digitOr, beq_eq_decide, Bool.or_assoc]

theorem not_blank_of_decimalDigit (c : Char) (h : isDecimalDigit c = true) :
    isBlank c = false := by
  obtain ⟨first, member, within⟩ := List.any_eq_true.mp h
  have apart : ∀ first ∈ Text.digitZeros, ∀ value < 10,
      isBlank (Char.ofNat (first + value)) = false := by
    decide +kernel
  simp only [Bool.and_eq_true, decide_eq_true_eq] at within
  have code_eq : first + (c.toNat - first) = c.toNat := by omega
  have here := apart first member (c.toNat - first) (by omega)
  rwa [code_eq, Char.ofNat_toNat] at here

theorem toNat_of_hexDigit {c : Char} (h : isHexDigit c = true) :
    0x30 ≤ c.toNat ∧ c.toNat ≤ 0x66 := by
  simp only [isHexDigit, hexDigitValue?] at h
  split at h
  · rename_i digit
    have low : 0x30 ≤ c.toNat := (Char.isDigit_iff_toNat.mp digit).1
    have high : c.toNat ≤ 0x39 := (Char.isDigit_iff_toNat.mp digit).2
    constructor <;> omega
  · split at h
    · rename_i lower
      have low : 0x61 ≤ c.toNat := lower.1
      have high : c.toNat ≤ 0x66 := lower.2
      constructor <;> omega
    · split at h
      · rename_i upper
        have low : 0x41 ≤ c.toNat := upper.1
        have high : c.toNat ≤ 0x46 := upper.2
        constructor <;> omega
      · cases h

theorem not_blank_of_hexDigit (c : Char) (h : isHexDigit c = true) :
    isBlank c = false := by
  have bounds := toNat_of_hexDigit h
  simp [isBlank]
  omega

/-! ## Fields of the power meter -/

/-- A field between two tags. -/
theorem tagged_eq_some_iff {allowed : Char → Bool} {opening closing : String}
    (stops : ∀ rest, Stops allowed (closing.toList ++ rest))
    {place run : List Char} :
    (do
      let field ← after? opening place
      runBefore? allowed closing field) = some run ↔
      run ∈ someOf allowed ∧
        opening.toList ++ run ++ closing.toList <+: place := by
  simp only [Option.bind_eq_bind, Option.bind_eq_some_iff,
    after?_eq_some_iff, leaves_literal, runBefore?_eq_some_iff stops]
  constructor
  · rintro ⟨_, rfl, member, rest, rfl⟩
    exact ⟨member, rest, by simp⟩
  · rintro ⟨member, rest, rfl⟩
    exact ⟨run ++ closing.toList ++ rest, by simp, member, rest, rfl⟩

theorem powerField?_eq_some_iff {place digits : List Char} :
    powerField? place = some digits ↔
      digits ∈ someOf isDecimalDigit ∧
        "<ch1><watts>".toList ++ digits ++ "</watts></ch1>".toList <+: place :=
  tagged_eq_some_iff fun _ => stops_cons (by decide) _

theorem clockField?_eq_some_iff {place field : List Char} :
    clockField? place = some field ↔
      field ∈ someOf (digitOr ['-', ':']) ∧
        "<time>".toList ++ field ++ "</time>".toList <+: place := by
  rw [← isClockChar_eq]
  exact tagged_eq_some_iff fun _ => stops_cons (by decide) _

theorem temperatureField?_eq_some_iff {place field : List Char} :
    temperatureField? place = some field ↔
      field ∈ someOf (digitOr ['-', '.']) ∧ ∃ spaces ∈ manyOf (· == ' '),
        "<tmpr>".toList ++ spaces ++ field ++ "</tmpr>".toList <+: place := by
  rw [← isTemperatureChar_eq]
  have stops (rest : List Char) :
      Stops isTemperatureChar ("</tmpr>".toList ++ rest) :=
    stops_cons (by decide) _
  have apart (c : Char) (h : isTemperatureChar c = true) :
      (c == ' ') = false := by
    rw [beq_eq_false_iff_ne]
    rintro rfl
    revert h
    decide
  simp only [temperatureField?, Option.bind_eq_bind, Option.bind_eq_some_iff,
    after?_eq_some_iff, leaves_literal, runBefore?_eq_some_iff stops]
  constructor
  · rintro ⟨inner, rfl, member, rest, rest_eq⟩
    refine ⟨member, inner.takeWhile (· == ' '),
      fun c => List.mem_takeWhile_imp, rest, ?_⟩
    simp only [List.append_assoc] at rest_eq ⊢
    rw [rest_eq, List.takeWhile_append_dropWhile]
  · rintro ⟨member, spaces, blank, rest, rfl⟩
    refine ⟨spaces ++ (field ++ ("</tmpr>".toList ++ rest)),
      by simp only [List.append_assoc], member, rest, ?_⟩
    rw [(takeWhile_append blank (stops_someOf apart member _)).2,
      List.append_assoc]

theorem recognises_tagged {allowed : Char → Bool} {opening closing : String}
    {read? : List Char → Option (List Char)}
    (h : ∀ place run, read? place = some run ↔ run ∈ someOf allowed ∧
      opening.toList ++ run ++ closing.toList <+: place) :
    Recognises read?
      (literal opening * someOf allowed * literal closing) := by
  intro place
  simp only [Option.isSome_iff_exists, h, Begins, exists_mem_mul,
    exists_mem_literal]

theorem recognises_powerField? : Recognises powerField? Encoding.power :=
  recognises_tagged fun _ _ => powerField?_eq_some_iff

theorem recognises_clockField? : Recognises clockField? Encoding.clock :=
  recognises_tagged fun _ _ => clockField?_eq_some_iff

theorem recognises_temperatureField? :
    Recognises temperatureField? Encoding.temperature := by
  intro place
  simp only [Option.isSome_iff_exists, temperatureField?_eq_some_iff, Begins,
    Encoding.temperature, exists_mem_mul, exists_mem_literal]
  constructor
  · rintro ⟨field, member, spaces, blank, start⟩
    exact ⟨spaces, blank, field, member, start⟩
  · rintro ⟨spaces, blank, field, member, start⟩
    exact ⟨field, member, spaces, blank, start⟩

/-! ## Numbers of elements -/

theorem hexNumber?_eq_some_iff {text number rest : List Char} :
    hexNumber? text = some (number, rest) ↔
      number ∈ literal "0x" * someOf isHexDigit ∧ number ++ rest = text ∧
        Stops isHexDigit rest := by
  simp only [hexNumber?, Option.bind_eq_bind, Option.bind_eq_some_iff,
    Prod.exists, after?_eq_some_iff, leaves_literal, run?_eq_some_iff,
    Language.mem_mul, mem_literal]
  constructor
  · rintro ⟨_, rfl, run, rest, ⟨member, rfl, stops⟩, ⟨⟩⟩
    exact ⟨⟨_, rfl, run, member, rfl⟩, by simp, stops⟩
  · rintro ⟨⟨_, rfl, run, member, rfl⟩, rfl, stops⟩
    exact ⟨run ++ rest, by simp, run, rest, ⟨member, rfl, stops⟩, by simp⟩

theorem number?_sound {text number rest : List Char}
    (h : number? text = some (number, rest)) :
    number ∈ Encoding.number ∧ number ++ rest = text := by
  simp only [number?] at h
  split at h
  · rename_i found hex
    cases h
    obtain ⟨member, text_eq, -⟩ := hexNumber?_eq_some_iff.mp hex
    exact ⟨.inl member, text_eq⟩
  · obtain ⟨member, text_eq, -⟩ := run?_eq_some_iff.mp h
    exact ⟨.inr member, text_eq⟩

/-- What may follow a number in an element. -/
def EndsContent (rest : List Char) : Prop :=
  ∃ c others, rest = c :: others ∧ (isBlank c = true ∨ c = '<')

theorem EndsContent.stops {rest : List Char} (ends : EndsContent rest)
    {allowed : Char → Bool} (apart : ∀ c, allowed c = true → isBlank c = false)
    (bracket : allowed '<' = false) : Stops allowed rest := by
  obtain ⟨c, others, rfl, white | rfl⟩ := ends
  · refine stops_cons ?_ others
    by_contra digit
    simp [apart c (by simpa using digit)] at white
  · exact stops_cons bracket others

theorem endsContent_closing {blanks : List Char}
    (all : blanks ∈ manyOf isBlank) (name rest : List Char) :
    EndsContent (blanks ++ ('<' :: name ++ rest)) := by
  cases blanks with
  | nil => exact ⟨'<', name ++ rest, rfl, .inr rfl⟩
  | cons c others =>
      exact ⟨c, others ++ ('<' :: name ++ rest), rfl,
        .inl (all c List.mem_cons_self)⟩

/-- A row of digits is not read as a hexadecimal number. -/
theorem hexNumber?_decimal {run rest : List Char}
    (member : run ∈ someOf isDecimalDigit) (ends : EndsContent rest) :
    hexNumber? (run ++ rest) = none := by
  obtain ⟨nonempty, digits⟩ := member
  by_contra found
  obtain ⟨⟨number, behind⟩, hex⟩ := Option.ne_none_iff_exists'.mp found
  obtain ⟨⟨_, rfl, hexDigits, -, rfl⟩, text_eq, -⟩ :=
    hexNumber?_eq_some_iff.mp hex
  -- The second character would have to be the mark of a hexadecimal number.
  match run, nonempty with
  | [_], _ =>
      obtain ⟨c, others, rfl, blank⟩ := ends
      obtain ⟨-, rfl, -⟩ : _ ∧ 'x' = c ∧ _ := by simpa using text_eq
      revert blank
      decide
  | _ :: c :: _, _ =>
      obtain ⟨-, rfl, -⟩ : _ ∧ 'x' = c ∧ _ := by simpa using text_eq
      have digit := digits 'x' (by simp)
      revert digit
      decide

theorem number?_append {number rest : List Char}
    (member : number ∈ Encoding.number) (ends : EndsContent rest) :
    number? (number ++ rest) = some (number, rest) := by
  rcases member with hex | decimal
  · have stops : Stops isHexDigit rest :=
      ends.stops not_blank_of_hexDigit (by decide)
    simp [number?, hexNumber?_eq_some_iff.mpr ⟨hex, rfl, stops⟩]
  · have stops : Stops isDecimalDigit rest :=
      ends.stops not_blank_of_decimalDigit (by decide)
    simp [number?, hexNumber?_decimal decimal ends,
      run?_eq_some_iff.mpr ⟨decimal, rfl, stops⟩]

theorem number_stops_blank {number : List Char}
    (member : number ∈ Encoding.number) (rest : List Char) :
    Stops isBlank (number ++ rest) := by
  rcases member with ⟨_, rfl, run, -, rfl⟩ | decimal
  · exact stops_cons (by decide) _
  · exact stops_someOf not_blank_of_decimalDigit decimal rest

/-! ## Elements -/

theorem element?_eq_some_iff {name : String}
    {place number rest : List Char} :
    element? name place = some (number, rest) ↔
      number ∈ Encoding.number ∧
        ∃ before ∈ manyOf isBlank, ∃ after ∈ manyOf isBlank,
          ("<" ++ name ++ ">").toList ++ before ++ number ++ after ++
            ("</" ++ name ++ ">").toList ++ rest = place := by
  simp only [element?, Option.bind_eq_bind, Option.bind_eq_some_iff,
    Prod.exists, after?_eq_some_iff, leaves_literal]
  constructor
  · rintro ⟨content, rfl, _, behind, found, _, closing, ⟨⟩⟩
    obtain ⟨member, number_eq⟩ := number?_sound found
    refine ⟨member, content.takeWhile isBlank, fun c =>
      List.mem_takeWhile_imp, behind.takeWhile isBlank, fun c =>
      List.mem_takeWhile_imp, ?_⟩
    simp only [List.append_assoc]
    rw [closing, List.takeWhile_append_dropWhile, number_eq,
      List.takeWhile_append_dropWhile]
  · rintro ⟨member, before, blank, after, white, rfl⟩
    have closing : ("</" ++ name ++ ">").toList =
        '<' :: ("/" ++ name ++ ">").toList := by simp
    have stops : Stops isBlank (("</" ++ name ++ ">").toList ++ rest) := by
      rw [closing]
      exact stops_cons (by decide) _
    have ends : EndsContent
        (after ++ (("</" ++ name ++ ">").toList ++ rest)) := by
      rw [closing]
      exact endsContent_closing white _ rest
    refine ⟨before ++ (number ++ (after ++
        (("</" ++ name ++ ">").toList ++ rest))),
      by simp only [List.append_assoc], number,
      after ++ (("</" ++ name ++ ">").toList ++ rest), ?_, rest, ?_, rfl⟩
    · rw [(takeWhile_append blank (number_stops_blank member _)).2]
      exact number?_append member ends
    · rw [(takeWhile_append white stops).2]

theorem leaves_element_iff {name : String} {place rest : List Char} :
    Leaves (Encoding.element name) place rest ↔
      ∃ number, element? name place = some (number, rest) := by
  simp only [element?_eq_some_iff, Leaves, Encoding.element, exists_mem_mul,
    exists_mem_literal]
  constructor
  · rintro ⟨before, blank, number, member, after, white, rfl⟩
    exact ⟨number, member, before, blank, after, white, rfl⟩
  · rintro ⟨number, member, before, blank, after, white, rfl⟩
    exact ⟨before, blank, number, member, after, white, rfl⟩

/-! ## Demand records -/

section Records

variable {α : Type} {language : Language Char}

theorem Recognises.afterGap? {read? : List Char → Option α}
    (h : Recognises read? language) :
    Recognises (Line.afterGap? read?) (Encoding.gap * language) := by
  intro text
  induction text with
  | nil => rw [Line.afterGap?, h, Encoding.gap, begins_manyOf_mul_nil]
  | cons c rest ih =>
      rw [Encoding.gap, begins_manyOf_mul_cons, ← h, ← Encoding.gap, ← ih,
        Line.afterGap?]
      cases read? (c :: rest) with
      | some found => simp
      | none => by_cases newline : c = '\n' <;> simp [newline]

theorem recognises_elementThen? {name : String}
    {next? : List Char → List Char → Option α}
    (h : ∀ number, Recognises (next? number) language) :
    Recognises (elementThen? name next?)
      (Encoding.gap * (Encoding.element name * language)) := by
  refine Recognises.afterGap? fun text => ?_
  simp only [Option.isSome_iff_exists, Option.bind_eq_bind,
    Option.bind_eq_some_iff, Prod.exists, begins_mul, leaves_element_iff]
  constructor
  · rintro ⟨found, number, rest, element, next⟩
    exact ⟨rest, ⟨number, element⟩,
      (h number rest).mp (Option.isSome_of_eq_some next)⟩
  · rintro ⟨rest, ⟨number, element⟩, begins⟩
    obtain ⟨found, next⟩ :=
      Option.isSome_iff_exists.mp ((h number rest).mpr begins)
    exact ⟨found, number, rest, element, next⟩

end Records

theorem recognises_demandFields? :
    Recognises demandFields? Encoding.demand := by
  have record : Encoding.demand = literal "<InstantaneousDemand>" *
      (Encoding.gap * (Encoding.element "TimeStamp" *
        (Encoding.gap * (Encoding.element "Demand" *
          (Encoding.gap * (Encoding.element "Multiplier" *
            (Encoding.gap * (Encoding.element "Divisor" * 1)))))))) := by
    simp only [Encoding.demand, mul_assoc, mul_one]
  rw [record]
  refine Recognises.after? ?_ _
  refine recognises_elementThen? fun time => ?_
  refine recognises_elementThen? fun demand => ?_
  refine recognises_elementThen? fun multiplier => ?_
  refine recognises_elementThen? fun divisor => ?_
  exact recognises_some _

/-! ## Climate records -/

theorem climateFields?_eq_some_iff {place celsius percent : List Char} :
    climateFields? place = some ⟨celsius, percent⟩ ↔
      celsius ∈ someOf (digitOr ['-', '+', '.', 'e', 'E']) ∧
        percent ∈ someOf (digitOr ['-', '+', '.', 'e', 'E']) ∧
        ∃ blanks ∈ manyOf isBlank, ∃ rest,
          Stops (digitOr ['-', '+', '.', 'e', 'E']) rest ∧
          "temperature=".toList ++ celsius ++ ",".toList ++ blanks ++
            "relative_humidity=".toList ++ percent ++ rest = place := by
  rw [← isClimateChar_eq]
  simp only [climateFields?, Option.bind_eq_bind, Option.bind_eq_some_iff,
    Prod.exists, after?_eq_some_iff, leaves_literal, run?_eq_some_iff]
  constructor
  · rintro ⟨_, rfl, _, _, ⟨member, rfl, -⟩, gap, rfl, field, start, _, rest,
      ⟨last, rfl, stops⟩, ⟨⟩⟩
    refine ⟨member, last, gap.takeWhile isBlank, fun c =>
      List.mem_takeWhile_imp, rest, stops, ?_⟩
    simp only [List.append_assoc]
    rw [start, List.takeWhile_append_dropWhile]
  · rintro ⟨member, last, blanks, white, rest, stops, rfl⟩
    have dark : Stops isBlank
        ("relative_humidity=".toList ++ (percent ++ rest)) :=
      stops_cons (by decide) _
    refine ⟨celsius ++ (",".toList ++ (blanks ++
        ("relative_humidity=".toList ++ (percent ++ rest)))),
      by simp only [List.append_assoc], celsius, _,
      ⟨member, rfl, stops_cons (by decide) _⟩, _, rfl, percent ++ rest, ?_,
      percent, rest, ⟨last, rfl, stops⟩, rfl⟩
    rw [(takeWhile_append white dark).2]

theorem recognises_climateFields? :
    Recognises climateFields? Encoding.climate := by
  intro place
  simp only [Option.isSome_iff_exists, Begins, Encoding.climate,
    exists_mem_mul, exists_mem_literal]
  constructor
  · rintro ⟨⟨celsius, percent⟩, found⟩
    obtain ⟨member, last, blanks, white, rest, -, rfl⟩ :=
      climateFields?_eq_some_iff.mp found
    exact ⟨celsius, member, blanks, white, percent, last,
      List.prefix_append _ rest⟩
  · rintro ⟨celsius, member, blanks, white, percent, last, rest, rfl⟩
    -- The reader takes all the digits there are, the word maybe fewer.
    refine ⟨⟨celsius, percent ++ rest.takeWhile
        (digitOr ['-', '+', '.', 'e', 'E'])⟩,
      climateFields?_eq_some_iff.mpr ⟨member, ?_, blanks, white,
        rest.dropWhile (digitOr ['-', '+', '.', 'e', 'E']),
        stops_dropWhile _ rest, ?_⟩⟩
    · obtain ⟨nonempty, all⟩ := last
      refine ⟨by simp [nonempty], fun c found => ?_⟩
      rcases List.mem_append.mp found with first | more
      · exact all c first
      · exact List.mem_takeWhile_imp more
    · simp only [List.append_assoc, List.takeWhile_append_dropWhile]

/-! ## Lines -/

theorem isRecognised_iff (line : String) :
    isRecognised line = true ↔
      ∃ field ∈ Encoding.power + Encoding.temperature + Encoding.clock +
        Encoding.demand + Encoding.climate, field <:+: line.toList := by
  simp only [isRecognised, Bool.or_eq_true,
    recognises_powerField?.leftmost?, recognises_temperatureField?.leftmost?,
    recognises_clockField?.leftmost?, recognises_demandFields?.leftmost?,
    recognises_climateFields?.leftmost?, Language.mem_add, or_and_right,
    exists_or]

/-- A false start and a digit of another script do not matter. -/
example : isRecognised "<tmpr> <tmpr>  -٣.5</tmpr>" = true := by
  decide +kernel

end MeterWatch.Line
