import MeterWatch.Line.Decode

/-!
# Kinds of readings

Each reader of a line reads values of its own kinds, so what is selected from a
line by kind comes from one reader.
-/

namespace MeterWatch

inductive Reading.Kind where
  | power
  | temperature
  | humidity
  | clock
  | demand
  deriving DecidableEq

def Reading.kind : Reading → Reading.Kind
  | .power .. => .power
  | .temperature _ => .temperature
  | .humidity _ => .humidity
  | .clock _ => .clock
  | .demand .. => .demand

namespace Line

/-! ## Readers -/

theorem kind_powerReading? {text : List Char} {reading : Reading}
    (h : powerReading? text = some reading) : reading.kind = .power := by
  simp only [powerReading?, Option.bind_eq_bind, Option.bind_eq_some_iff] at h
  obtain ⟨_, _, _, _, ⟨⟩⟩ := h
  rfl

theorem kind_temperatureReading? {text : List Char} {reading : Reading}
    (h : temperatureReading? text = some reading) :
    reading.kind = .temperature := by
  simp only [temperatureReading?, Option.bind_eq_bind,
    Option.bind_eq_some_iff] at h
  obtain ⟨_, _, _, _, ⟨⟩⟩ := h
  rfl

theorem kind_clockReading? {text : List Char} {reading : Reading}
    (h : clockReading? text = some reading) : reading.kind = .clock := by
  simp only [clockReading?, Option.bind_eq_bind, Option.bind_eq_some_iff] at h
  obtain ⟨_, _, ⟨⟩⟩ := h
  rfl

theorem kind_demandReading? {text : List Char} {reading : Reading}
    (h : demandReading? text = some reading) : reading.kind = .demand := by
  simp only [demandReading?, DemandFields.reading?, Option.bind_eq_bind,
    Option.bind_eq_some_iff] at h
  obtain ⟨_, _, _, _, _, _, _, _, _, _, _, _, ⟨⟩⟩ := h
  rfl

theorem kind_climateReadings {text : List Char} {reading : Reading}
    (h : reading ∈ climateReadings text) :
    reading.kind = .temperature ∨ reading.kind = .humidity := by
  unfold climateReadings at h
  cases fields : leftmost? climateFields? text with
  | none => simp [fields] at h
  | some found =>
      simp only [fields, Option.map_some, Option.getD_some,
        ClimateFields.readings, List.mem_append, Option.mem_toList,
        Option.map_eq_some_iff] at h
      rcases h with ⟨_, _, rfl⟩ | ⟨_, _, rfl⟩
      · exact .inl rfl
      · exact .inr rfl

/-! ## Selections -/

section Selections

variable {β : Type} {select : Reading → Option β}

theorem filterMap_of_other_kinds {kind : Reading.Kind}
    (selects : ∀ reading, reading.kind ≠ kind → select reading = none)
    {readings : List Reading}
    (others : ∀ reading ∈ readings, reading.kind ≠ kind) :
    readings.filterMap select = [] :=
  List.filterMap_eq_nil_iff.mpr fun reading member =>
    selects reading (others reading member)

theorem filterMap_decode_power
    (selects : ∀ reading, reading.kind ≠ .power → select reading = none)
    (line : String) :
    (decode line).filterMap select =
      (powerReading? line.toList).toList.filterMap select := by
  have behind : ((temperatureReading? line.toList).toList ++
      (clockReading? line.toList).toList ++
      (demandReading? line.toList).toList ++
      climateReadings line.toList).filterMap select = [] := by
    refine filterMap_of_other_kinds selects fun reading member => ?_
    simp only [List.mem_append, Option.mem_toList] at member
    rcases member with ((temperature | clock) | demand) | climate
    · simp [kind_temperatureReading? temperature]
    · simp [kind_clockReading? clock]
    · simp [kind_demandReading? demand]
    · rcases kind_climateReadings climate with found | found <;> simp [found]
  simp only [decode, List.append_assoc, List.filterMap_append] at behind ⊢
  rw [behind, List.append_nil]

theorem filterMap_decode_demand
    (selects : ∀ reading, reading.kind ≠ .demand → select reading = none)
    (line : String) :
    (decode line).filterMap select =
      (demandReading? line.toList).toList.filterMap select := by
  have before : ((powerReading? line.toList).toList ++
      (temperatureReading? line.toList).toList ++
      (clockReading? line.toList).toList).filterMap select = [] := by
    refine filterMap_of_other_kinds selects fun reading member => ?_
    simp only [List.mem_append, Option.mem_toList] at member
    rcases member with (power | temperature) | clock
    · simp [kind_powerReading? power]
    · simp [kind_temperatureReading? temperature]
    · simp [kind_clockReading? clock]
  have behind : (climateReadings line.toList).filterMap select = [] := by
    refine filterMap_of_other_kinds selects fun reading member => ?_
    rcases kind_climateReadings member with found | found <;> simp [found]
  simp only [decode, List.filterMap_append] at before ⊢
  rw [before, behind, List.nil_append, List.append_nil]

end Selections

/-! ## Recognised lines -/

/-- Every reading comes from a field by which its line is recognised. -/
theorem decode_of_not_isRecognised {line : String}
    (unknown : isRecognised line = false) : decode line = [] := by
  simp only [isRecognised, Bool.or_eq_false_iff, Option.isSome_eq_false_iff,
    Option.isNone_iff_eq_none] at unknown
  obtain ⟨⟨⟨⟨power, temperature⟩, clock⟩, demand⟩, climate⟩ := unknown
  simp [decode, powerReading?, power, temperatureReading?, temperature,
    clockReading?, clock, demandReading?, demand, climateReadings, climate]

end Line

end MeterWatch
