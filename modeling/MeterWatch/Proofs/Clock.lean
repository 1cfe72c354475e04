import MeterWatch.Proofs.Line.Watts
import MeterWatch.Proofs.Poll.LastWrite

/-!
# Times of day

An instant is shown as hours, minutes and seconds of two digits each, counted
from the last midnight of a zone.  There is one such text for each second of a
day, so instants of one zone look alike if and only if whole days lie between
them.  A line with a demand leaves the time of its record on the dashboard.
-/

namespace MeterWatch

/-! ## Numbers of two digits -/

/-- Two digits that stand for a number below a limit. -/
structure IsTwoDigits (limit : Nat) (field : List Char) : Prop where
  length : field.length = 2
  all : ∀ c ∈ field, c.isDigit = true
  below : digitsValue field < limit

theorem digitsValue_twoDigits {n : Nat} (small : n < 100) :
    digitsValue (twoDigits n) = n := by
  have tens : (Nat.digitChar (n / 10)).toNat = 48 + n / 10 :=
    Nat.toNat_digitChar_of_lt_ten (by omega)
  have ones : (Nat.digitChar (n % 10)).toNat = 48 + n % 10 :=
    Nat.toNat_digitChar_of_lt_ten (by omega)
  have zero : '0'.toNat = 48 := rfl
  simp only [digitsValue, twoDigits, List.foldl_cons, List.foldl_nil, tens,
    ones, zero]
  omega

theorem isTwoDigits_twoDigits {n limit : Nat} (below : n < limit)
    (small : limit ≤ 100) : IsTwoDigits limit (twoDigits n) where
  length := rfl
  all := by
    have tens : n / 10 < 10 := by omega
    have ones : n % 10 < 10 := by omega
    simp [twoDigits, Nat.isDigit_digitChar, tens, ones]
  below := by rwa [digitsValue_twoDigits (by omega)]

namespace IsTwoDigits

variable {limit : Nat} {field other : List Char}

theorem twoDigits_digitsValue (h : IsTwoDigits limit field) :
    twoDigits (digitsValue field) = field := by
  obtain ⟨tens, ones, rfl⟩ := List.length_eq_two.mp h.length
  obtain ⟨tens_eq, tens_lt⟩ := Line.digitChar_digit (h.all tens (by simp))
  obtain ⟨ones_eq, ones_lt⟩ := Line.digitChar_digit (h.all ones (by simp))
  have value : digitsValue [tens, ones] =
      10 * (tens.toNat - '0'.toNat) + (ones.toNat - '0'.toNat) := by
    simp [digitsValue]
  have first : digitsValue [tens, ones] / 10 = tens.toNat - '0'.toNat := by
    omega
  have second : digitsValue [tens, ones] % 10 = ones.toNat - '0'.toNat := by
    omega
  rw [twoDigits, first, second, tens_eq, ones_eq]

theorem eq_of_digitsValue (h : IsTwoDigits limit field)
    (again : IsTwoDigits limit other)
    (same : digitsValue field = digitsValue other) : field = other := by
  rw [← h.twoDigits_digitsValue, same, again.twoDigits_digitsValue]

end IsTwoDigits

/-! ## Texts of times -/

/-- The hours, minutes and seconds of a time of day, so many seconds after a
midnight or before one. -/
def IsTimeOfDay (text : String) (passed : Int) : Prop :=
  ∃ hours minutes seconds,
    text.toList = hours ++ ':' :: minutes ++ ':' :: seconds ∧
      IsTwoDigits 24 hours ∧ IsTwoDigits 60 minutes ∧
      IsTwoDigits 60 seconds ∧
      (3600 * digitsValue hours + 60 * digitsValue minutes +
        digitsValue seconds : Int) = passed % 86400

namespace IsTimeOfDay

variable {text other : String} {passed later : Int}

theorem length (time : IsTimeOfDay text passed) : text.length = 8 := by
  obtain ⟨hours, minutes, seconds, text_eq, first, second, third, -⟩ := time
  rw [← String.length_toList, text_eq]
  simp [first.length, second.length, third.length]

/-- Every second of a day has one text. -/
theorem unique (time : IsTimeOfDay text passed)
    (again : IsTimeOfDay other passed) : text = other := by
  obtain ⟨hours, minutes, seconds, text_eq, first, second, third, sum⟩ := time
  obtain ⟨hours', minutes', seconds', other_eq, first', second', third', sum'⟩ :=
    again
  -- Minutes and seconds are remainders, so the sum tells all three numbers.
  have minutes_lt := second.below
  have seconds_lt := third.below
  have minutes_lt' := second'.below
  have seconds_lt' := third'.below
  have hours_eq := first.eq_of_digitsValue first' (by omega)
  have minutes_eq := second.eq_of_digitsValue second' (by omega)
  have seconds_eq := third.eq_of_digitsValue third' (by omega)
  apply String.toList_inj.mp
  rw [text_eq, other_eq, hours_eq, minutes_eq, seconds_eq]

theorem congr (time : IsTimeOfDay text passed)
    (same : passed % 86400 = later % 86400) : IsTimeOfDay text later := by
  obtain ⟨hours, minutes, seconds, text_eq, first, second, third, sum⟩ := time
  exact ⟨hours, minutes, seconds, text_eq, first, second, third,
    sum.trans same⟩

/-- A text tells which second of a day it is. -/
theorem emod_eq (time : IsTimeOfDay text passed)
    (again : IsTimeOfDay text later) : passed % 86400 = later % 86400 := by
  obtain ⟨hours, minutes, seconds, text_eq, first, second, third, sum⟩ := time
  obtain ⟨hours', minutes', seconds', text_eq', first', second', third', sum'⟩ :=
    again
  rw [text_eq, List.append_assoc, List.append_assoc] at text_eq'
  obtain ⟨rfl, behind⟩ :=
    List.append_inj text_eq' (first.length.trans first'.length.symm)
  obtain ⟨rfl, last⟩ := List.append_inj (List.cons.inj behind).2
    (second.length.trans second'.length.symm)
  obtain rfl := (List.cons.inj last).2
  exact sum.symm.trans sum'

end IsTimeOfDay

/-! ## Texts of instants -/

theorem Instant.secondOfDay_eq (instant : Instant) (zone : Zone) :
    (instant.secondOfDay zone : Int) =
      (instant.seconds + zone.offset) % 86400 :=
  Int.toNat_of_nonneg (Int.emod_nonneg _ (by decide))

theorem isTimeOfDay_ofList {second : Nat} (below : second < 86400) :
    IsTimeOfDay (String.ofList (twoDigits (second / 3600) ++ ':' ::
      twoDigits (second / 60 % 60) ++ ':' :: twoDigits (second % 60)))
        second := by
  have hours_lt : second / 3600 < 24 := by omega
  have minutes_lt : second / 60 % 60 < 60 := by omega
  have seconds_lt : second % 60 < 60 := by omega
  refine ⟨_, _, _, String.toList_ofList,
    isTwoDigits_twoDigits hours_lt (by decide),
    isTwoDigits_twoDigits minutes_lt (by decide),
    isTwoDigits_twoDigits seconds_lt (by decide), ?_⟩
  rw [digitsValue_twoDigits (by omega), digitsValue_twoDigits (by omega),
    digitsValue_twoDigits (by omega)]
  omega

namespace Zone

theorem format_isTimeOfDay (zone : Zone) (instant : Instant) :
    IsTimeOfDay (zone.format instant) (instant.seconds + zone.offset) := by
  have second_eq := instant.secondOfDay_eq zone
  have below : instant.secondOfDay zone < 86400 := by omega
  exact (isTimeOfDay_ofList below).congr (by omega)

theorem format_eq_iff {zone : Zone} {instant : Instant} {text : String} :
    zone.format instant = text ↔
      IsTimeOfDay text (instant.seconds + zone.offset) := by
  constructor
  · rintro rfl
    exact zone.format_isTimeOfDay instant
  · exact (zone.format_isTimeOfDay instant).unique

/-- Instants are shown alike if they are the same second of a day, each in the
zone it is shown in. -/
theorem format_eq_format_iff {zone other : Zone} {instant later : Instant} :
    zone.format instant = other.format later ↔
      (instant.seconds + zone.offset) % 86400 =
        (later.seconds + other.offset) % 86400 := by
  have shown := other.format_isTimeOfDay later
  rw [format_eq_iff]
  exact ⟨fun time => time.emod_eq shown, fun same => shown.congr same.symm⟩

/-- The last second before the first midnight that is counted from. -/
example : utc.format ⟨-1, by decide⟩ = "23:59:59" := by decide

end Zone

/-! ## The clock readout -/

namespace Line

theorem exists_record_of_demand {line : String} {watts : Binary64}
    {time : Instant} (member : .demand watts time ∈ decode line) :
    ∃ places fields demand multiplier divisor,
      IsFirstRecord line.toList places fields ∧
        fields.HasValues time demand multiplier divisor := by
  obtain ⟨places, fields, time, demand, multiplier, divisor, first, values,
    ⟨⟩⟩ := demandReading?_eq_some_iff.mp (demandReading?_of_mem member)
  exact ⟨places, fields, demand, multiplier, divisor, first, values⟩

theorem get?_time_of_demand {line : String} {watts : Binary64} {time : Instant}
    (member : .demand watts time ∈ decode line) (dashboard : Dashboard) :
    ((decode line).foldl Dashboard.apply dashboard).readouts.get? .time =
      some (dashboard.zone.format time) := by
  rw [Dashboard.foldl_apply]
  exact Readouts.get?_writeAll_of_isLast _
    (isLast_of_demand dashboard.zone member).2

end Line

/--
Every instant is shown as the time of its day, also before the first midnight
that is counted from, and in local time five and a half hours ahead.  If a line
gives a demand, the clock shows the time that its record names, whatever the
line says about the time of the meter and whatever was shown before.
-/
theorem clock_shows_time_of_day :
    (∀ instant : Instant,
      (Zone.utc.format instant).length = 8 ∧
        IsTimeOfDay (Zone.utc.format instant) instant.seconds ∧
        (Zone.localTime.format instant).length = 8 ∧
        IsTimeOfDay (Zone.localTime.format instant)
          (instant.seconds + 19800)) ∧
      ∀ line watts time, .demand watts time ∈ Line.decode line →
        (∃ places fields demand multiplier divisor,
          Line.IsFirstRecord line.toList places fields ∧
            fields.HasValues time demand multiplier divisor) ∧
        ∀ dashboard : Dashboard,
          ((Line.decode line).foldl Dashboard.apply dashboard).readouts.get?
              .time = some (dashboard.zone.format time) := by
  constructor
  · intro instant
    have utc : IsTimeOfDay (Zone.utc.format instant) instant.seconds := by
      simpa [Zone.offset] using Zone.utc.format_isTimeOfDay instant
    have ahead := Zone.localTime.format_isTimeOfDay instant
    exact ⟨utc.length, utc, ahead.length, ahead⟩
  · intro line watts time member
    exact ⟨Line.exists_record_of_demand member,
      Line.get?_time_of_demand member⟩

/-- The record stands before the time of the meter, and it is midnight in local
time. -/
def midnightLine : String :=
  "<InstantaneousDemand><TimeStamp>0x10428</TimeStamp><Demand>5</Demand>" ++
    "<Multiplier>1</Multiplier><Divisor>0</Divisor><time>23:59:59</time>"

theorem midnight_replaces_meter_time :
    .clock "23:59:59" ∈ Line.decode midnightLine ∧
      .demand (.ofNat 5000) ⟨66600, by decide⟩ ∈
        Line.decode midnightLine ∧
      ((Line.decode midnightLine).foldl Dashboard.apply
        ((Dashboard.new .localTime).apply (.clock "18:30"))).readouts.get?
          .time = some "00:00:00" := by
  have decoded : Line.decode midnightLine = [.clock "23:59:59",
      .demand (.ofNat 5000) ⟨66600, by decide⟩] := by
    decide +kernel
  have record : .demand (.ofNat 5000) ⟨66600, by decide⟩ ∈
      Line.decode midnightLine := by
    simp [decoded]
  refine ⟨by simp [decoded], record,
    ((clock_shows_time_of_day.2 midnightLine _ _ record).2 _).trans ?_⟩
  decide +kernel

end MeterWatch
