import MeterWatch.Proofs.Line.ScaledWatts
import MeterWatch.Proofs.Line.Sensors

/-!
# What readings of a line can be

Readings come in the order of the readers, at most one of each.  Their numbers
are finite and in range whatever the line holds, and a line that is not
recognised has none.
-/

namespace MeterWatch

open Binary64

/-! ## Well-formed readings -/

/-- Numbers are in range, and what is shown as it is comes from the line. -/
def Reading.IsWellFormed (line : String) : Reading → Prop
  | .power watts _ => watts < 2 ^ 64
  | .temperature celsius => celsius.isFinite = true
  | .humidity percent => percent.isFinite = true
  | .clock text =>
      text.toList ∈ Line.someOf (Line.digitOr ['-', ':']) ∧
        text.toList <:+: line.toList
  | .demand watts time =>
      (∃ rank rank_lt, watts = .finite false rank rank_lt) ∧
        0 ≤ time.seconds ∧ time.seconds ≤ maxSeconds

namespace Line

section Readers

variable {line : String} {reading : Reading}

theorem powerReading?_isWellFormed
    (read : powerReading? line.toList = some reading) :
    reading.IsWellFormed line := by
  simp only [powerReading?, Option.bind_eq_bind, Option.bind_eq_some_iff]
    at read
  obtain ⟨digits, -, watts, value, ⟨⟩⟩ := read
  exact (bounded_eq_some_iff.mp value).2.2

theorem isFinite_of_bind {α : Type} {fields? : Option α}
    {field : α → List Char} {number : Binary64}
    (read : (fields?.bind fun fields => readFinite? (field fields)) =
      some number) : number.isFinite = true := by
  obtain ⟨fields, -, value⟩ := Option.bind_eq_some_iff.mp read
  exact (readFinite?_eq_some_iff.mp value).isFinite

theorem temperatureReading?_isWellFormed
    (read : temperatureReading? line.toList = some reading) :
    reading.IsWellFormed line := by
  rw [temperatureReading?_eq, Option.map_eq_some_iff] at read
  obtain ⟨celsius, value, rfl⟩ := read
  exact @isFinite_of_bind _ _ id celsius value

theorem climateReadings_isWellFormed
    (read : reading ∈ climateReadings line.toList) :
    reading.IsWellFormed line := by
  rw [climateReadings_eq, List.mem_append, Option.mem_toList,
    Option.mem_toList, Option.map_eq_some_iff, Option.map_eq_some_iff] at read
  rcases read with ⟨celsius, value, rfl⟩ | ⟨percent, value, rfl⟩
  · exact isFinite_of_bind value
  · exact isFinite_of_bind value

theorem clockReading?_isWellFormed
    (read : clockReading? line.toList = some reading) :
    reading.IsWellFormed line := by
  simp only [clockReading?, Option.bind_eq_bind, Option.bind_eq_some_iff]
    at read
  obtain ⟨field, found, ⟨⟩⟩ := read
  obtain ⟨place, here, -⟩ := exists_leftmost_place found
  obtain ⟨row, stands⟩ := clockField?_eq_some_iff.mp here
  rw [Reading.IsWellFormed, String.toList_ofList]
  refine ⟨row, ?_⟩
  have whole := stands.isInfix.trans (List.drop_suffix place _).isInfix
  exact .trans ⟨"<time>".toList, "</time>".toList, rfl⟩ whole

theorem demandReading?_isWellFormed
    (read : demandReading? line.toList = some reading) :
    reading.IsWellFormed line := by
  obtain ⟨-, fields, time, demand, multiplier, divisor, -, values, rfl⟩ :=
    demandReading?_eq_some_iff.mp read
  obtain ⟨seconds, -, -, seconds_eq⟩ := values.time
  obtain ⟨small, watts_eq⟩ := scaledWatts_eq values.demand.2
    (factor_lt values.multiplier.2) (factor_lt values.divisor.2)
    (factor_ne_zero divisor)
  refine ⟨⟨_, small, watts_eq⟩, ?_, time.inRange.2⟩
  rw [seconds_eq]
  exact Int.natCast_nonneg seconds

end Readers

theorem decode_isWellFormed {line : String} {reading : Reading}
    (member : reading ∈ decode line) : reading.IsWellFormed line := by
  simp only [decode, List.mem_append, Option.mem_toList] at member
  rcases member with (((power | temperature) | clock) | demand) | climate
  · exact powerReading?_isWellFormed power
  · exact temperatureReading?_isWellFormed temperature
  · exact clockReading?_isWellFormed clock
  · exact demandReading?_isWellFormed demand
  · exact climateReadings_isWellFormed climate

/-! ## Order -/

theorem kinds_toList {reading? : Option Reading} {kind : Reading.Kind}
    (h : ∀ reading, reading? = some reading → reading.kind = kind) :
    List.Sublist (reading?.toList.map Reading.kind) [kind] := by
  cases reading? with
  | none => exact List.nil_sublist _
  | some reading =>
      rw [Option.toList_some, List.map_singleton, h reading rfl]

theorem kinds_map (number? : Option Binary64) (make : Binary64 → Reading)
    {kind : Reading.Kind} (h : ∀ number, (make number).kind = kind) :
    List.Sublist ((number?.map make).toList.map Reading.kind) [kind] := by
  refine kinds_toList fun reading made => ?_
  obtain ⟨number, -, rfl⟩ := Option.map_eq_some_iff.mp made
  exact h number

theorem kinds_decode (line : String) :
    List.Sublist ((decode line).map Reading.kind)
      [.power, .temperature, .clock, .demand, .temperature, .humidity] := by
  simp only [decode_eq, List.map_append, List.append_assoc]
  refine .append (kinds_toList fun _ => kind_powerReading?) ?_
  refine .append (kinds_map _ .temperature fun _ => rfl) ?_
  refine .append (kinds_toList fun _ => kind_clockReading?) ?_
  refine .append (kinds_toList fun _ => kind_demandReading?) ?_
  exact .append (kinds_map _ .temperature fun _ => rfl)
    (kinds_map _ .humidity fun _ => rfl)

/--
The readings of a line keep the order of the readers, and each is well formed:
no operation on a demand of four 64-bit numbers overflows or divides by zero.
Only recognised lines have readings.
-/
theorem readings_are_wellFormed (line : String) :
    List.Sublist ((decode line).map Reading.kind)
        [.power, .temperature, .clock, .demand, .temperature, .humidity] ∧
      (∀ reading ∈ decode line, reading.IsWellFormed line) ∧
      (∀ demand multiplier divisor : Nat, demand < 2 ^ 64 →
        multiplier < 2 ^ 64 → divisor < 2 ^ 64 →
          (ofNat demand * ofNat (factor multiplier)).isFinite = true ∧
          (∀ negative, ofNat (factor divisor) ≠ .zero negative) ∧
          (ofNat demand * ofNat (factor multiplier) /
            ofNat (factor divisor)).isFinite = true ∧
          (scaledWatts demand (factor multiplier)
            (factor divisor)).isFinite = true) ∧
      (decode line ≠ [] → isRecognised line = true) := by
  refine ⟨kinds_decode line, fun reading => decode_isWellFormed,
    fun demand multiplier divisor hdemand hmultiplier hdivisor => ?_, ?_⟩
  · have nonzero := factor_ne_zero divisor
    have multiplier_lt := factor_lt hmultiplier
    have divisor_lt := factor_lt hdivisor
    obtain ⟨_, product⟩ := ofNat_mul_ofNat hdemand multiplier_lt
    obtain ⟨_, quotient⟩ :=
      ofNat_mul_div_ofNat hdemand multiplier_lt divisor_lt nonzero
    obtain ⟨_, watts⟩ := scaledWatts_eq hdemand multiplier_lt divisor_lt nonzero
    refine ⟨by rw [product]; rfl, fun negative zero => ?_,
      by rw [quotient]; rfl, by rw [watts]; rfl⟩
    rw [ofNat_eq divisor_lt, Binary64.zero] at zero
    exact natRank_ne_zero nonzero (Binary64.finite.inj zero).2
  · intro found
    by_contra unrecognised
    exact found (decode_of_not_isRecognised (by simpa using unrecognised))

/-- The humidity of this line is no numeral. -/
def crowdedLine : String :=
  "<time>00:٧</time>temperature=-4, relative_humidity=.e5"

theorem crowded_line_is_wellFormed :
    (decode crowdedLine).length = 2 ∧
      (∀ reading ∈ decode crowdedLine, reading.IsWellFormed crowdedLine) ∧
      (scaledWatts (2 ^ 64 - 1) (2 ^ 64 - 1) 1).isFinite = true ∧
      isRecognised crowdedLine = true := by
  have two : (decode crowdedLine).length = 2 := by decide +kernel
  obtain ⟨-, wellFormed, bounded, recognised⟩ :=
    readings_are_wellFormed crowdedLine
  have large := bounded (2 ^ 64 - 1) (2 ^ 64 - 1) 0 (by decide) (by decide)
    (by decide)
  have found : decode crowdedLine ≠ [] :=
    List.ne_nil_of_length_pos (by rw [two]; decide)
  exact ⟨two, wellFormed, large.2.2.2, recognised found⟩

end Line

end MeterWatch
