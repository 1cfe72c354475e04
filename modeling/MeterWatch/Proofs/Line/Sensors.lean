import MeterWatch.Proofs.Decimal.Numeral
import MeterWatch.Proofs.Line.Encodings

/-!
# Fields of temperature and humidity

The first temperature of the meter and the first climate record of a line are
read.  Their fields may hold what is no numeral, or one that is out of range;
such a field gives no reading, but it takes none away from the others.
-/

namespace MeterWatch.Line

open Text (isBlank)

/-! ## Fields -/

/-- A temperature of the meter starts at this place. -/
structure IsTemperatureField (line : List Char) (place : Nat)
    (field : List Char) : Prop where
  isRow : field ∈ someOf (digitOr ['-', '.'])
  stands : ∃ spaces ∈ manyOf (· == ' '),
    "<tmpr>".toList ++ spaces ++ field ++ "</tmpr>".toList <+: line.drop place

/-- A climate record starts at this place.  Its second field goes on as long as
the line goes on with characters of fields. -/
structure IsClimateRecord (line : List Char) (place : Nat)
    (fields : ClimateFields) : Prop where
  celsius : fields.celsius ∈ someOf (digitOr ['-', '+', '.', 'e', 'E'])
  percent : fields.percent ∈ someOf (digitOr ['-', '+', '.', 'e', 'E'])
  stands : ∃ blanks ∈ manyOf isBlank, ∃ rest,
    Stops (digitOr ['-', '+', '.', 'e', 'E']) rest ∧
      "temperature=".toList ++ fields.celsius ++ ",".toList ++ blanks ++
        "relative_humidity=".toList ++ fields.percent ++ rest = line.drop place

section Places

variable {line : List Char}

theorem temperatureField?_drop_iff (place : Nat) (field : List Char) :
    temperatureField? (line.drop place) = some field ↔
      IsTemperatureField line place field := by
  rw [temperatureField?_eq_some_iff]
  exact ⟨fun ⟨row, stands⟩ => ⟨row, stands⟩, fun ⟨row, stands⟩ => ⟨row, stands⟩⟩

theorem climateFields?_drop_iff (place : Nat) (fields : ClimateFields) :
    climateFields? (line.drop place) = some fields ↔
      IsClimateRecord line place fields := by
  rw [climateFields?_eq_some_iff]
  exact ⟨fun ⟨celsius, percent, stands⟩ => ⟨celsius, percent, stands⟩,
    fun ⟨celsius, percent, stands⟩ => ⟨celsius, percent, stands⟩⟩

theorem leftmost?_temperatureField_iff {field : List Char} :
    leftmost? temperatureField? line = some field ↔
      ∃ place, IsFirst (IsTemperatureField line) place field :=
  leftmost?_eq_some_iff temperatureField?_drop_iff

theorem leftmost?_climateFields_iff {fields : ClimateFields} :
    leftmost? climateFields? line = some fields ↔
      ∃ place, IsFirst (IsClimateRecord line) place fields :=
  leftmost?_eq_some_iff climateFields?_drop_iff

end Places

/-! ## Readings of fields -/

/-- What the meter measures, if its field can be used. -/
def meterCelsius? (line : List Char) : Option Binary64 :=
  (leftmost? temperatureField? line).bind readFinite?

def climateCelsius? (line : List Char) : Option Binary64 :=
  (leftmost? climateFields? line).bind fun fields => readFinite? fields.celsius

def climatePercent? (line : List Char) : Option Binary64 :=
  (leftmost? climateFields? line).bind fun fields => readFinite? fields.percent

section First

variable {line : List Char} {place : Nat} {number : Binary64}

theorem meterCelsius?_eq_some_iff {field : List Char}
    (first : IsFirst (IsTemperatureField line) place field) :
    meterCelsius? line = some number ↔ StandsFor field number := by
  rw [meterCelsius?, leftmost?_temperatureField_iff.mpr ⟨place, first⟩,
    Option.bind_some, readFinite?_eq_some_iff]

variable {fields : ClimateFields}
  (first : IsFirst (IsClimateRecord line) place fields)

include first

theorem climateCelsius?_eq_some_iff :
    climateCelsius? line = some number ↔ StandsFor fields.celsius number := by
  rw [climateCelsius?, leftmost?_climateFields_iff.mpr ⟨place, first⟩,
    Option.bind_some, readFinite?_eq_some_iff]

theorem climatePercent?_eq_some_iff :
    climatePercent? line = some number ↔ StandsFor fields.percent number := by
  rw [climatePercent?, leftmost?_climateFields_iff.mpr ⟨place, first⟩,
    Option.bind_some, readFinite?_eq_some_iff]

end First

theorem temperatureReading?_eq (line : List Char) :
    temperatureReading? line = (meterCelsius? line).map .temperature := by
  simp only [temperatureReading?, meterCelsius?, Option.bind_eq_bind]
  cases leftmost? temperatureField? line with
  | none => rfl
  | some field =>
      simp only [Option.bind_some]
      cases readFinite? field <;> rfl

theorem climateReadings_eq (line : List Char) :
    climateReadings line =
      ((climateCelsius? line).map Reading.temperature).toList ++
        ((climatePercent? line).map Reading.humidity).toList := by
  unfold climateReadings climateCelsius? climatePercent?
  cases leftmost? climateFields? line <;> rfl

theorem decode_eq (line : String) :
    decode line = (powerReading? line.toList).toList ++
      ((meterCelsius? line.toList).map Reading.temperature).toList ++
      (clockReading? line.toList).toList ++ (demandReading? line.toList).toList ++
      (((climateCelsius? line.toList).map Reading.temperature).toList ++
        ((climatePercent? line.toList).map Reading.humidity).toList) := by
  rw [← climateReadings_eq, ← temperatureReading?_eq]
  rfl

theorem isRecognised_of_temperatureField {line : String} {place : Nat}
    {field : List Char} (here : IsTemperatureField line.toList place field) :
    isRecognised line = true := by
  obtain ⟨row, spaces, blank, start⟩ := here
  refine (isRecognised_iff line).mpr ⟨_, ?_, start.isInfix.trans
    (List.drop_suffix place _).isInfix⟩
  refine .inl (.inl (.inl (.inr ?_)))
  exact Language.append_mem_mul (Language.append_mem_mul
    (Language.append_mem_mul rfl blank) row) rfl

theorem isRecognised_of_climateRecord {line : String} {place : Nat}
    {fields : ClimateFields} (here : IsClimateRecord line.toList place fields) :
    isRecognised line = true := by
  obtain ⟨celsius, percent, blanks, blank, rest, -, start⟩ := here
  refine (isRecognised_iff line).mpr ⟨_, ?_, (start ▸
    List.prefix_append _ rest).isInfix.trans
      (List.drop_suffix place _).isInfix⟩
  refine .inr ?_
  exact Language.append_mem_mul (Language.append_mem_mul (Language.append_mem_mul
    (Language.append_mem_mul (Language.append_mem_mul rfl celsius) rfl) blank)
    rfl) percent

/--
The first temperature of the meter and both fields of the first climate record
are read, each on its own: a field that stands for a finite number gives a
reading of that number, and any other field gives none.  The rest of what the
line holds is read all the same, and the line is recognised.
-/
theorem usable_fields_are_read (line : String) :
    ∃ meter celsius percent : Option Binary64,
      decode line = (powerReading? line.toList).toList ++
        (meter.map Reading.temperature).toList ++
        (clockReading? line.toList).toList ++
        (demandReading? line.toList).toList ++
        ((celsius.map Reading.temperature).toList ++
          (percent.map Reading.humidity).toList) ∧
      ((∀ place field, ¬ IsTemperatureField line.toList place field) →
        meter = none) ∧
      ((∃ place field, IsTemperatureField line.toList place field) →
        isRecognised line = true ∧
          ∃ place field, IsFirst (IsTemperatureField line.toList) place field) ∧
      (∀ place field, IsFirst (IsTemperatureField line.toList) place field →
        ∀ number, meter = some number ↔ StandsFor field number) ∧
      ((∀ place fields, ¬ IsClimateRecord line.toList place fields) →
        celsius = none ∧ percent = none) ∧
      ((∃ place fields, IsClimateRecord line.toList place fields) →
        isRecognised line = true ∧
          ∃ place fields, IsFirst (IsClimateRecord line.toList) place fields) ∧
      ∀ place fields, IsFirst (IsClimateRecord line.toList) place fields →
        (∀ number, celsius = some number ↔ StandsFor fields.celsius number) ∧
          ∀ number, percent = some number ↔
            StandsFor fields.percent number := by
  refine ⟨_, _, _, decode_eq line, ?_, ?_, ?_, ?_, ?_, ?_⟩
  · intro nowhere
    rw [meterCelsius?, (leftmost?_eq_none_iff temperatureField?_drop_iff).mpr
      nowhere, Option.bind_none]
  · rintro ⟨place, field, here⟩
    exact ⟨isRecognised_of_temperatureField here,
      exists_first temperatureField?_drop_iff here⟩
  · exact fun place field first number => meterCelsius?_eq_some_iff first
  · intro nowhere
    simp only [climateCelsius?, climatePercent?,
      (leftmost?_eq_none_iff climateFields?_drop_iff).mpr nowhere,
      Option.bind_none, and_self]
  · rintro ⟨place, fields, here⟩
    exact ⟨isRecognised_of_climateRecord here,
      exists_first climateFields?_drop_iff here⟩
  · exact fun place fields first =>
      ⟨fun number => climateCelsius?_eq_some_iff first,
        fun number => climatePercent?_eq_some_iff first⟩

/-- The first field is no numeral and the last one is out of range. -/
def spoiltLine : String :=
  "<tmpr>1.2.3</tmpr>temperature=-.5e1, relative_humidity=4e999"

theorem spoilt_fields_are_dropped :
    (∃ place, IsFirst (IsTemperatureField spoiltLine.toList) place
        "1.2.3".toList) ∧
      (∃ place, IsFirst (IsClimateRecord spoiltLine.toList) place
        ⟨"-.5e1".toList, "4e999".toList⟩) ∧
      decode spoiltLine = [.temperature (Binary64.ofNat 5).neg] ∧
      isRecognised spoiltLine = true := by
  obtain ⟨place, first⟩ := leftmost?_temperatureField_iff.mp
    (by decide +kernel : leftmost? temperatureField? spoiltLine.toList =
      some "1.2.3".toList)
  obtain ⟨other, otherFirst⟩ := leftmost?_climateFields_iff.mp
    (by decide +kernel : leftmost? climateFields? spoiltLine.toList =
      some ⟨"-.5e1".toList, "4e999".toList⟩)
  obtain ⟨meter, celsius, percent, decoded, -, recognised, fromMeter, -, -,
    fromClimate⟩ := usable_fields_are_read spoiltLine
  have unreadable : ∀ field, readFinite? field = none →
      ∀ number, ¬ StandsFor field number := by
    intro field unread number stands
    rw [← readFinite?_eq_some_iff, unread] at stands
    cases stands
  have no_meter : meter = none := Option.eq_none_iff_forall_ne_some.mpr
    fun number read => unreadable _ (by decide +kernel) number
      ((fromMeter place _ first number).mp read)
  have no_percent : percent = none := Option.eq_none_iff_forall_ne_some.mpr
    fun number read => unreadable _ (by decide +kernel) number
      (((fromClimate other _ otherFirst).2 number).mp read)
  have five : celsius = some (Binary64.ofNat 5).neg :=
    ((fromClimate other _ otherFirst).1 _).mpr
      (readFinite?_eq_some_iff.mp (by decide +kernel))
  refine ⟨⟨place, first⟩, ⟨other, otherFirst⟩, ?_,
    (recognised ⟨place, _, first.1⟩).1⟩
  rw [decoded, no_meter, no_percent, five]
  decide +kernel

end MeterWatch.Line
