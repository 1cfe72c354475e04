import MeterWatch.Proofs.Line.Encodings
import MeterWatch.Proofs.Line.Kinds

/-!
# Which demand record is read

A line may carry several records, and parts of records.  Of all places where the
parts of a record follow each other as they should, the reader takes those that
come first when they are compared from left to right.  Whether their numbers can
be used is asked only then.
-/

namespace MeterWatch.Line

open Text (isBlank)

/-! ## Places -/

/-- Between two places lies nothing but text of one line. -/
def IsGap (line : List Char) (start stop : Nat) : Prop :=
  start ≤ stop ∧ '\n' ∉ line.extract start stop

/-- An element with its number, and possibly white space around that. -/
def IsElement (name : String) (number word : List Char) : Prop :=
  number ∈ Encoding.number ∧
    ∃ before ∈ manyOf isBlank, ∃ after ∈ manyOf isBlank,
      word = ("<" ++ name ++ ">").toList ++ before ++ number ++ after ++
        ("</" ++ name ++ ">").toList

/-- Elements follow each other behind a place, each after a gap. -/
inductive HasElements (line : List Char) :
    Nat → List String → List Nat → List (List Char) → Prop
  | nil {start} : HasElements line start [] [] []
  | cons {start place stop name names places number numbers}
      (gap : IsGap line start place) (inside : stop ≤ line.length)
      (element : IsElement name number (line.extract place stop))
      (rest : HasElements line stop names places numbers) :
      HasElements line start (name :: names) (place :: places)
        (number :: numbers)

def recordTag : List Char := "<InstantaneousDemand>".toList

def elementNames : List String :=
  ["TimeStamp", "Demand", "Multiplier", "Divisor"]

def DemandFields.numbers (fields : DemandFields) : List (List Char) :=
  [fields.time, fields.demand, fields.multiplier, fields.divisor]

/-- The places of a record are that of its tag and those of its elements. -/
inductive IsRecord (line : List Char) : List Nat → DemandFields → Prop
  | intro {start places fields}
      (tag : line.extract start (start + recordTag.length) = recordTag)
      (elements : HasElements line (start + recordTag.length) elementNames
        places fields.numbers) :
      IsRecord line (start :: places) fields

/-- Of two different lists of places, one comes first. -/
def ComesFirst (places others : List Nat) : Prop :=
  places = others ∨ List.Lex (· < ·) places others

structure IsFirstRecord (line : List Char) (places : List Nat)
    (fields : DemandFields) : Prop where
  isRecord : IsRecord line places fields
  first : ∀ others found, IsRecord line others found →
    ComesFirst places others

theorem comesFirst_of_lt {place other : Nat} (before : place < other)
    (places others : List Nat) :
    ComesFirst (place :: places) (other :: others) :=
  .inr (.rel before)

theorem ComesFirst.cons {places others : List Nat}
    (first : ComesFirst places others) (place : Nat) :
    ComesFirst (place :: places) (place :: others) := by
  rcases first with rfl | before
  · exact .inl rfl
  · exact .inr (.cons before)

/-! ## Texts between places -/

theorem extract_append_drop (line : List Char) {place stop : Nat}
    (forward : place ≤ stop) :
    line.extract place stop ++ line.drop stop = line.drop place := by
  have behind : line.drop stop = (line.drop place).drop (stop - place) := by
    rw [List.drop_drop, Nat.add_sub_cancel' forward]
  rw [behind]
  exact List.take_append_drop _ _

theorem extract_of_append_eq {line word rest : List Char} {place : Nat}
    (split : word ++ rest = line.drop place) :
    line.extract place (place + word.length) = word ∧
      line.drop (place + word.length) = rest := by
  have taken : (line.drop place).take word.length = word := by
    rw [← split, List.take_left]
  have left : (line.drop place).drop word.length = rest := by
    rw [← split, List.drop_left]
  rw [List.extract_eq_take_drop, Nat.add_sub_cancel_left]
  exact ⟨taken, by rw [← left, List.drop_drop]⟩

/-! ## Elements -/

theorem IsElement.ne_nil {name : String} {number word : List Char}
    (element : IsElement name number word) : word ≠ [] := by
  obtain ⟨-, before, -, after, -, rfl⟩ := element
  simp

theorem IsElement.place_le {line : List Char} {name : String}
    {number : List Char} {place stop : Nat}
    (element : IsElement name number (line.extract place stop)) :
    place ≤ stop := by
  by_contra backward
  refine element.ne_nil ?_
  rw [List.extract_eq_take_drop, Nat.sub_eq_zero_of_le (by omega),
    List.take_zero]

theorem element?_of_isElement {line : List Char} {name : String}
    {number : List Char} {place stop : Nat}
    (element : IsElement name number (line.extract place stop)) :
    element? name (line.drop place) = some (number, line.drop stop) := by
  obtain ⟨member, before, blank, after, white, word⟩ := element
  refine element?_eq_some_iff.mpr
    ⟨member, before, blank, after, white, ?_⟩
  rw [← word]
  exact extract_append_drop line (IsElement.place_le
    ⟨member, before, blank, after, white, word⟩)

theorem exists_isElement {line : List Char} {name : String}
    {number rest : List Char} {place : Nat}
    (found : element? name (line.drop place) = some (number, rest)) :
    ∃ stop, stop ≤ line.length ∧ line.drop stop = rest ∧
      IsElement name number (line.extract place stop) := by
  obtain ⟨member, before, blank, after, white, split⟩ :=
    element?_eq_some_iff.mp found
  obtain ⟨word, left⟩ := extract_of_append_eq split
  refine ⟨_, ?_, left, member, before, blank, after, white, word⟩
  have lengths := congrArg List.length split
  simp only [List.length_append, List.length_drop] at lengths ⊢
  have opening : 0 < ("<" ++ name ++ ">").toList.length := by simp
  omega

/-! ## Shortest gaps -/

section Gaps

variable {α : Type} {read? : List Char → Option α}

theorem afterGap?_eq_none {text : List Char}
    (failed : afterGap? read? text = none) {size : Nat}
    (gap : '\n' ∉ text.take size) : read? (text.drop size) = none := by
  induction text generalizing size with
  | nil => simpa [afterGap?] using failed
  | cons c rest ih =>
      rw [afterGap?] at failed
      split at failed
      · cases failed
      · next here =>
          cases size with
          | zero => exact here
          | succ size =>
              rw [List.take_succ_cons, List.mem_cons, not_or] at gap
              rw [if_neg (Ne.symm gap.1)] at failed
              exact ih failed gap.2

theorem exists_shortest_gap {text : List Char} {found : α}
    (read : afterGap? read? text = some found) :
    ∃ size, '\n' ∉ text.take size ∧ read? (text.drop size) = some found ∧
      ∀ smaller < size, read? (text.drop smaller) = none := by
  induction text with
  | nil => exact ⟨0, by simp, by simpa [afterGap?] using read, by simp⟩
  | cons c rest ih =>
      rw [afterGap?] at read
      split at read
      · next other here =>
          exact ⟨0, by simp, here.trans read, by simp⟩
      · next here =>
          split at read
          · cases read
          · next other =>
              obtain ⟨size, gap, behind, before⟩ := ih read
              refine ⟨size + 1, ?_, behind, fun smaller h => ?_⟩
              · rw [List.take_succ_cons, List.mem_cons, not_or]
                exact ⟨Ne.symm other, gap⟩
              · cases smaller with
                | zero => exact here
                | succ smaller => exact before smaller (by omega)

end Gaps

/-! ## Rows of elements -/

/-- The numbers of elements that follow each other. -/
def elements? : List String → List Char → Option (List (List Char))
  | [], _ => some []
  | name :: names, text =>
      elementThen? name
        (fun number rest => (elements? names rest).map (number :: ·)) text

theorem elements?_of_hasElements {line : List Char} {start : Nat}
    {names : List String} {places : List Nat} {numbers : List (List Char)}
    (elements : HasElements line start names places numbers) :
    (elements? names (line.drop start)).isSome = true := by
  induction elements with
  | nil => rfl
  | @cons start place stop name names places number numbers gap inside element
      rest ih =>
      obtain ⟨found, read⟩ := Option.isSome_iff_exists.mp ih
      by_contra failed
      rw [Option.not_isSome_iff_eq_none, elements?, elementThen?] at failed
      have here := afterGap?_eq_none failed gap.2
      rw [List.drop_drop, Nat.add_sub_cancel' gap.1] at here
      simp [element?_of_isElement element, read] at here

/-- Where an element starts decides where it ends. -/
theorem IsElement.unique {line : List Char} {name : String}
    {number other : List Char} {place stop otherStop : Nat}
    (inside : stop ≤ line.length) (otherInside : otherStop ≤ line.length)
    (element : IsElement name number (line.extract place stop))
    (otherElement : IsElement name other (line.extract place otherStop)) :
    number = other ∧ stop = otherStop := by
  have same := element?_of_isElement otherElement
  rw [element?_of_isElement element, Option.some.injEq, Prod.mk.injEq] at same
  have lengths := congrArg List.length same.2
  rw [List.length_drop, List.length_drop] at lengths
  exact ⟨same.1, by omega⟩

theorem HasElements.unique {line : List Char} {start : Nat}
    {names : List String} {places : List Nat}
    {numbers others : List (List Char)}
    (elements : HasElements line start names places numbers)
    (otherElements : HasElements line start names places others) :
    numbers = others := by
  induction elements generalizing others with
  | nil =>
      cases otherElements
      rfl
  | cons gap inside element rest ih =>
      cases otherElements with
      | cons _ otherInside otherElement otherRest =>
          obtain ⟨rfl, rfl⟩ := element.unique inside otherInside otherElement
          rw [ih otherRest]

theorem exists_first_elements {line : List Char} {start : Nat}
    {names : List String} {numbers : List (List Char)}
    (read : elements? names (line.drop start) = some numbers) :
    ∃ places, HasElements line start names places numbers ∧
      ∀ others found, HasElements line start names others found →
        ComesFirst places others := by
  induction names generalizing start numbers with
  | nil =>
      cases read
      refine ⟨[], .nil, fun others found elements => ?_⟩
      cases elements
      exact .inl rfl
  | cons name names ih =>
      obtain ⟨size, gap, behind, before⟩ := exists_shortest_gap read
      rw [List.drop_drop] at behind
      simp only [Option.bind_eq_bind, Option.bind_eq_some_iff,
        Option.map_eq_some_iff, Prod.exists] at behind
      obtain ⟨number, rest, here, numbers, later, rfl⟩ := behind
      obtain ⟨stop, inside, rfl, element⟩ := exists_isElement here
      obtain ⟨places, elements, first⟩ := ih later
      refine ⟨(start + size) :: places,
        .cons ⟨by omega, ?_⟩ inside element elements, ?_⟩
      · rwa [List.extract_eq_take_drop, Nat.add_sub_cancel_left]
      · intro others found other_elements
        cases other_elements with
        | @cons _ place _ _ _ others _ found other_gap other_inside
            other_element other_rest =>
            rcases Nat.lt_trichotomy (start + size) place with
              later | rfl | earlier
            · exact comesFirst_of_lt later places others
            · obtain ⟨-, rfl⟩ :=
                element.unique inside other_inside other_element
              exact (first others found other_rest).cons _
            · -- A shorter gap would have been taken.
              obtain ⟨behind, left⟩ := Option.isSome_iff_exists.mp
                (elements?_of_hasElements other_rest)
              have reach := other_gap.1
              have skipped := before (place - start) (by omega)
              rw [List.drop_drop, Nat.add_sub_cancel' reach] at skipped
              simp [element?_of_isElement other_element, left] at skipped

/-! ## Records -/

theorem afterGap?_map {α β : Type} (read? : List Char → Option α) (f : α → β)
    (text : List Char) :
    afterGap? (fun place => (read? place).map f) text =
      (afterGap? read? text).map f := by
  induction text with
  | nil => rfl
  | cons c rest ih =>
      rw [afterGap?, afterGap?, ih]
      cases read? (c :: rest) with
      | some found => rfl
      | none => by_cases newline : c = '\n' <;> simp [newline]

theorem elementThen?_map {α β : Type} (name : String)
    (next? : List Char → List Char → Option α) (f : α → β)
    (text : List Char) :
    elementThen? name (fun number rest => (next? number rest).map f) text =
      (elementThen? name next? text).map f := by
  rw [elementThen?, elementThen?, ← afterGap?_map]
  congr
  funext place
  cases element? name place <;> rfl

theorem demandFields?_numbers (place : List Char) :
    (demandFields? place).map DemandFields.numbers =
      (after? "<InstantaneousDemand>" place).bind (elements? elementNames) := by
  unfold demandFields?
  cases after? "<InstantaneousDemand>" place with
  | none => rfl
  | some record =>
      simp only [Option.bind_eq_bind, Option.bind_some, ← elementThen?_map,
        elementNames, elements?, Option.map_some, DemandFields.numbers]

theorem numbers_injective {first second : DemandFields}
    (same : first.numbers = second.numbers) : first = second := by
  cases first
  cases second
  simpa [DemandFields.numbers] using same

theorem after?_recordTag_iff {line rest : List Char} {start : Nat} :
    after? "<InstantaneousDemand>" (line.drop start) = some rest ↔
      line.extract start (start + recordTag.length) = recordTag ∧
        line.drop (start + recordTag.length) = rest := by
  rw [after?_eq_some_iff, leaves_literal]
  constructor
  · exact extract_of_append_eq
  · rintro ⟨tag, rfl⟩
    have split := extract_append_drop line
      (Nat.le_add_right start recordTag.length)
    rwa [tag] at split

theorem demandFields?_of_isRecord {line : List Char} {start : Nat}
    {places : List Nat} {fields : DemandFields}
    (record : IsRecord line (start :: places) fields) :
    (demandFields? (line.drop start)).isSome = true := by
  cases record with
  | intro tag elements =>
      have read := after?_recordTag_iff.mpr ⟨tag, rfl⟩
      have found := elements?_of_hasElements elements
      have numbers := demandFields?_numbers (line.drop start)
      rw [read, Option.bind_some] at numbers
      rwa [← numbers, Option.isSome_map] at found

theorem exists_first_record {line : List Char} {fields : DemandFields}
    (read : leftmost? demandFields? line = some fields) :
    ∃ places, IsFirstRecord line places fields := by
  obtain ⟨start, here, before⟩ := exists_leftmost_place read
  have numbers := demandFields?_numbers (line.drop start)
  rw [here, Option.map_some, eq_comm, Option.bind_eq_some_iff] at numbers
  obtain ⟨rest, opened, later⟩ := numbers
  obtain ⟨tag, rfl⟩ := after?_recordTag_iff.mp opened
  obtain ⟨places, elements, first⟩ := exists_first_elements later
  refine ⟨start :: places, .intro tag elements, fun others found record => ?_⟩
  cases record with
  | @intro place others found other_tag other_elements =>
      rcases Nat.lt_trichotomy start place with later | rfl | earlier
      · exact comesFirst_of_lt later places others
      · exact (first _ _ other_elements).cons start
      · have skipped := before place earlier
        have some_here :=
          demandFields?_of_isRecord (.intro other_tag other_elements)
        simp [skipped] at some_here

theorem leftmost?_isSome_of_isRecord {line : List Char} {places : List Nat}
    {fields : DemandFields} (record : IsRecord line places fields) :
    (leftmost? demandFields? line).isSome = true := by
  obtain ⟨start, places, rfl⟩ : ∃ start rest, places = start :: rest := by
    cases record
    exact ⟨_, _, rfl⟩
  have found := demandFields?_of_isRecord record
  by_contra failed
  rw [Option.not_isSome_iff_eq_none] at failed
  rw [leftmost?_eq_none failed] at found
  cases found

theorem ComesFirst.antisymm {places others : List Nat}
    (first : ComesFirst places others) (second : ComesFirst others places) :
    places = others := by
  rcases first with rfl | before
  · rfl
  · rcases second with rfl | after
    · rfl
    · exact absurd after (List.lex_asymm (fun h => Nat.lt_asymm h) before)

theorem IsFirstRecord.unique {line : List Char} {places others : List Nat}
    {fields found : DemandFields} (first : IsFirstRecord line places fields)
    (second : IsFirstRecord line others found) : fields = found := by
  obtain rfl := (first.first _ _ second.isRecord).antisymm
    (second.first _ _ first.isRecord)
  cases first.isRecord with
  | intro tag elements =>
      cases second.isRecord with
      | intro _ other_elements =>
          exact numbers_injective (elements.unique other_elements)

theorem IsFirstRecord.leftmost? {line : List Char} {places : List Nat}
    {fields : DemandFields} (first : IsFirstRecord line places fields) :
    Line.leftmost? demandFields? line = some fields := by
  obtain ⟨found, read⟩ := Option.isSome_iff_exists.mp
    (leftmost?_isSome_of_isRecord first.isRecord)
  obtain ⟨others, second⟩ := exists_first_record read
  rw [read, first.unique second]

/-! ## Numbers that can be used -/

/-- Digits that stand for a number, in base sixteen behind a mark. -/
inductive IsNumeral : List Char → Nat → Prop
  | hex {digits} (nonempty : digits ≠ [])
      (all : ∀ c ∈ digits, isHexDigit c = true) :
      IsNumeral ("0x".toList ++ digits) (hexValue digits)
  | decimal {digits} (nonempty : digits ≠ [])
      (all : ∀ c ∈ digits, c.isDigit = true) :
      IsNumeral digits (digitsValue digits)

theorem bounded_eq_some_iff {isDigit : Char → Bool} {value : List Char → Nat}
    {text : List Char} {number : Nat} :
    (if (!text.isEmpty && text.all isDigit) = true then
        if value text < uint64Limit then some (value text) else none
      else none) = some number ↔
      (text ≠ [] ∧ ∀ c ∈ text, isDigit c = true) ∧ value text = number ∧
        number < uint64Limit := by
  simp only [Option.ite_none_right_eq_some, Bool.and_eq_true, Bool.not_eq_true',
    List.isEmpty_eq_false_iff, List.all_eq_true, Option.some.injEq]
  constructor
  · rintro ⟨digits, small, rfl⟩
    exact ⟨digits, rfl, small⟩
  · rintro ⟨digits, rfl, small⟩
    exact ⟨digits, small, rfl⟩

theorem readNumber?_eq_some_iff {text : List Char} {number : Nat} :
    readNumber? text = some number ↔
      IsNumeral text number ∧ number < uint64Limit := by
  rw [readNumber?]
  split
  · next digits marked =>
      rw [after?_eq_some_iff, leaves_literal] at marked
      subst marked
      rw [readHex?, bounded_eq_some_iff]
      constructor
      · rintro ⟨⟨nonempty, all⟩, rfl, small⟩
        exact ⟨.hex nonempty all, small⟩
      · rintro ⟨numeral, small⟩
        generalize text_eq : "0x".toList ++ digits = text at numeral
        cases numeral with
        | hex nonempty all =>
            obtain rfl := List.append_cancel_left text_eq
            exact ⟨⟨nonempty, all⟩, rfl, small⟩
        | decimal nonempty all =>
            exact absurd (all 'x' (by simp [← text_eq])) (by decide)
  · next unmarked =>
      rw [readDecimal?, bounded_eq_some_iff]
      constructor
      · rintro ⟨⟨nonempty, all⟩, rfl, small⟩
        exact ⟨.decimal nonempty all, small⟩
      · rintro ⟨numeral, small⟩
        cases numeral with
        | @hex digits nonempty all =>
            have marked : after? "0x" ("0x".toList ++ digits) = some digits :=
              after?_eq_some_iff.mpr (leaves_literal.mpr rfl)
            rw [unmarked] at marked
            cases marked
        | decimal nonempty all => exact ⟨⟨nonempty, all⟩, rfl, small⟩

/-- The fields of a record are numerals of 64 bits, the first of which is an
instant that calendars can represent. -/
structure DemandFields.HasValues (fields : DemandFields) (time : Instant)
    (demand multiplier divisor : Nat) : Prop where
  time : ∃ seconds, IsNumeral fields.time seconds ∧ seconds < uint64Limit ∧
    time.seconds = seconds
  demand : IsNumeral fields.demand demand ∧ demand < uint64Limit
  multiplier : IsNumeral fields.multiplier multiplier ∧
    multiplier < uint64Limit
  divisor : IsNumeral fields.divisor divisor ∧ divisor < uint64Limit

/-- A factor of zero is none. -/
def factor (number : Nat) : Nat := if number = 0 then 1 else number

theorem max_one_eq_factor (number : Nat) : max number 1 = factor number := by
  unfold factor
  split <;> omega

theorem factor_ne_zero (number : Nat) : factor number ≠ 0 := by
  unfold factor
  split <;> omega

theorem factor_lt {number : Nat} (h : number < Nat.pow 2 64) :
    factor number < Nat.pow 2 64 := by
  unfold factor
  split
  · decide
  · exact h

theorem ofSeconds?_eq_some_iff {seconds : Int} {time : Instant} :
    Instant.ofSeconds? seconds = some time ↔ time.seconds = seconds := by
  obtain ⟨other, inRange⟩ := time
  simp only [Instant.ofSeconds?, Option.dite_none_right_eq_some,
    Option.some.injEq, Instant.mk.injEq]
  constructor
  · rintro ⟨-, same⟩
    exact same.symm
  · rintro rfl
    exact ⟨inRange, rfl⟩

theorem DemandFields.reading?_eq_some_iff {fields : DemandFields}
    {reading : Reading} :
    fields.reading? = some reading ↔
      ∃ time demand multiplier divisor,
        fields.HasValues time demand multiplier divisor ∧
          reading = .demand
            (scaledWatts demand (factor multiplier) (factor divisor)) time := by
  simp only [reading?, Option.bind_eq_bind, Option.bind_eq_some_iff,
    readNumber?_eq_some_iff, ofSeconds?_eq_some_iff, max_one_eq_factor]
  constructor
  · rintro ⟨seconds, ⟨numeral, small⟩, demand, first, multiplier, second,
      divisor, third, time, same, ⟨⟩⟩
    exact ⟨time, demand, multiplier, divisor,
      ⟨⟨seconds, numeral, small, same⟩, first, second, third⟩, rfl⟩
  · rintro ⟨time, demand, multiplier, divisor,
      ⟨⟨seconds, numeral, small, same⟩, first, second, third⟩, rfl⟩
    exact ⟨seconds, ⟨numeral, small⟩, demand, first, multiplier, second,
      divisor, third, time, same, rfl⟩

/-- The first record alone is read. -/
theorem demandReading?_eq_some_iff {line : List Char} {reading : Reading} :
    demandReading? line = some reading ↔
      ∃ places fields time demand multiplier divisor,
        IsFirstRecord line places fields ∧
          fields.HasValues time demand multiplier divisor ∧
          reading = .demand
            (scaledWatts demand (factor multiplier) (factor divisor)) time := by
  simp only [demandReading?, Option.bind_eq_bind, Option.bind_eq_some_iff,
    DemandFields.reading?_eq_some_iff]
  constructor
  · rintro ⟨fields, found, time, demand, multiplier, divisor, values, rfl⟩
    obtain ⟨places, first⟩ := exists_first_record found
    exact ⟨places, fields, time, demand, multiplier, divisor, first, values,
      rfl⟩
  · rintro ⟨places, fields, time, demand, multiplier, divisor, first, values,
      rfl⟩
    exact ⟨fields, first.leftmost?, time, demand, multiplier, divisor, values,
      rfl⟩

/-! ## Demand readings of lines -/

def demandOf? : Reading → Option (Binary64 × Instant)
  | .demand watts time => some (watts, time)
  | _ => none

/-- The demand readings of a line. -/
def demands (line : String) : List (Binary64 × Instant) :=
  (decode line).filterMap demandOf?

/-- The other readers of a line read no demand. -/
theorem demands_eq (line : String) :
    demands line = (demandReading? line.toList).toList.filterMap demandOf? := by
  refine filterMap_decode_demand (fun reading other => ?_) line
  cases reading with
  | demand => exact absurd rfl other
  | _ => rfl

theorem demands_of_first {line : String} {places : List Nat}
    {fields : DemandFields} (first : IsFirstRecord line.toList places fields) :
    demands line = fields.reading?.toList.filterMap demandOf? := by
  rw [demands_eq, demandReading?, first.leftmost?]
  rfl

theorem demands_of_hasValues {line : String} {places : List Nat}
    {fields : DemandFields} (first : IsFirstRecord line.toList places fields)
    {time : Instant} {demand multiplier divisor : Nat}
    (values : fields.HasValues time demand multiplier divisor) :
    demands line =
      [(scaledWatts demand (factor multiplier) (factor divisor), time)] := by
  have read := DemandFields.reading?_eq_some_iff.mpr
    ⟨time, demand, multiplier, divisor, values, rfl⟩
  rw [demands_of_first first, read]
  rfl

theorem demands_of_not_hasValues {line : String} {places : List Nat}
    {fields : DemandFields} (first : IsFirstRecord line.toList places fields)
    (unusable : ¬ ∃ time demand multiplier divisor,
      fields.HasValues time demand multiplier divisor) :
    demands line = [] := by
  have unread : fields.reading? = none := by
    by_contra read
    obtain ⟨reading, read⟩ := Option.ne_none_iff_exists'.mp read
    obtain ⟨time, demand, multiplier, divisor, values, -⟩ :=
      DemandFields.reading?_eq_some_iff.mp read
    exact unusable ⟨time, demand, multiplier, divisor, values⟩
  rw [demands_of_first first, unread]
  rfl

theorem demands_of_no_record {line : String}
    (no_record : ∀ places fields, ¬ IsRecord line.toList places fields) :
    demands line = [] := by
  have unread : leftmost? demandFields? line.toList = none := by
    by_contra read
    obtain ⟨fields, read⟩ := Option.ne_none_iff_exists'.mp read
    obtain ⟨places, first⟩ := exists_first_record read
    exact no_record places fields first.isRecord
  rw [demands_eq, demandReading?, unread]
  rfl

/--
If a line holds a record, it holds one whose places come first.  Only the fields
of that one are read: they give the demand of the line if they have values, and
none otherwise.
-/
theorem demand_of_first_record (line : String) :
    ((∀ places fields, ¬ IsRecord line.toList places fields) →
        demands line = []) ∧
      ((∃ places fields, IsRecord line.toList places fields) →
        ∃ places fields, IsFirstRecord line.toList places fields) ∧
      ∀ places fields, IsFirstRecord line.toList places fields →
        leftmost? demandFields? line.toList = some fields ∧
          (∀ time demand multiplier divisor,
            fields.HasValues time demand multiplier divisor →
              demands line = [(scaledWatts demand (factor multiplier)
                (factor divisor), time)]) ∧
          ((demands line).length = 1 ↔ ∃ time demand multiplier divisor,
            fields.HasValues time demand multiplier divisor) ∧
          ((¬ ∃ time demand multiplier divisor,
            fields.HasValues time demand multiplier divisor) →
              demands line = []) := by
  refine ⟨demands_of_no_record, ?_, fun places fields first =>
    ⟨first.leftmost?, fun time demand multiplier divisor =>
      demands_of_hasValues first, ?_, demands_of_not_hasValues first⟩⟩
  · rintro ⟨places, fields, record⟩
    obtain ⟨found, read⟩ := Option.isSome_iff_exists.mp
      (leftmost?_isSome_of_isRecord record)
    obtain ⟨others, first⟩ := exists_first_record read
    exact ⟨others, found, first⟩
  · constructor
    · intro single
      by_contra unusable
      rw [demands_of_not_hasValues first unusable] at single
      cases single
    · rintro ⟨time, demand, multiplier, divisor, values⟩
      rw [demands_of_hasValues first values]
      rfl

/-- The first demand of this line is followed by a second line, so that the gap
behind it would be too long. -/
def brokenLine : String :=
  "<InstantaneousDemand><TimeStamp>0x01</TimeStamp><Demand>2</Demand>" ++
    "<Demand>\n 3 </Demand> <Multiplier>0</Multiplier><Divisor>4</Divisor>"

theorem demand_behind_broken_gap :
    ∃ places fields, IsFirstRecord brokenLine.toList places fields ∧
      fields.demand = ['3'] ∧
      demands brokenLine = [(.ofNat 750, ⟨1, by decide⟩)] := by
  have watts : scaledWatts 3 1 4 = .ofNat 750 := by decide +kernel
  have read : leftmost? demandFields? brokenLine.toList =
      some ⟨"0x01".toList, ['3'], ['0'], ['4']⟩ := by
    decide +kernel
  obtain ⟨places, first⟩ := exists_first_record read
  obtain ⟨-, values, -, -⟩ :=
    (demand_of_first_record brokenLine).2.2 places _ first
  have one : IsNumeral "0x01".toList 1 :=
    @IsNumeral.hex ['0', '1'] (by decide) (List.all_eq_true.mp rfl)
  have three : IsNumeral ['3'] 3 :=
    .decimal (by decide) (List.all_eq_true.mp rfl)
  have zero : IsNumeral ['0'] 0 :=
    .decimal (by decide) (List.all_eq_true.mp rfl)
  have four : IsNumeral ['4'] 4 :=
    .decimal (by decide) (List.all_eq_true.mp rfl)
  rw [← watts]
  exact ⟨places, _, first, rfl, values ⟨1, by decide⟩ 3 0 4
    ⟨⟨1, one, by decide, rfl⟩, ⟨three, by decide⟩, ⟨zero, by decide⟩,
      ⟨four, by decide⟩⟩⟩

end MeterWatch.Line
