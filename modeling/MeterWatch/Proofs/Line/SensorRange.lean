import MeterWatch.Proofs.Line.Readings
import MeterWatch.Proofs.Line.SensorTenths

/-!
# The range of sensor readouts

A reading is scaled to tenths before it is rounded.  Finite readings whose
tenths overflow are shown as infinite, and all others as numbers of one place.
-/

namespace MeterWatch

open Binary64 hiding round

/-! ## Texts of one place -/

/-- Digits, a point and one more digit, after a minus or no sign. -/
def IsOneDecimal (text : String) : Prop :=
  ∃ negative whole last,
    text.toList = signText negative ++ (whole ++ ['.', last]) ∧
      Json.IsDigits whole ∧ last.isDigit = true

theorem tenthsText_isOneDecimal (negative : Bool) (tenths : Nat) :
    IsOneDecimal (String.ofList (tenthsText negative tenths)) := by
  have last_lt : tenths % 10 < 10 := Nat.mod_lt _ (by decide)
  refine ⟨negative, Nat.toDigits 10 (tenths / 10), Nat.digitChar (tenths % 10),
    ?_, toDigits_isDigits _, ?_⟩
  · rw [String.toList_ofList, tenthsText, Nat.toDigits_of_lt_base last_lt]
  · refine (toDigits_isDigits (tenths % 10)).2 _ ?_
    rw [Nat.toDigits_of_lt_base last_lt]
    exact List.mem_singleton_self _

def infinityText (negative : Bool) : String :=
  String.ofList (signText negative ++ "inf".toList)

theorem infinityText_not_isOneDecimal (negative : Bool) :
    ¬ IsOneDecimal (infinityText negative) := by
  rintro ⟨sign, whole, last, text_eq, -⟩
  have point : '.' ∈ (infinityText negative).toList := by simp [text_eq]
  cases negative <;> revert point <;> decide

/-! ## Tenths -/

/-- Even one more than the greatest number would not be rounded up. -/
theorem exists_round_finite (negative : Bool) {rank : Nat}
    (h : rank < rankLimit) :
    ∃ whole, ∃ fits : natRank whole < rankLimit,
      (finite negative rank h).round = finite negative (natRank whole) fits := by
  have near := (divRound_near .away (units rank) unitsPerOne_pos).2
  have last : units rank ≤ units (rankLimit - 1) :=
    units_strictMono.monotone (Nat.le_sub_one_of_lt h)
  have whole_le : divRound .away (units rank) unitsPerOne * unitsPerOne ≤
      units (rankLimit - 1) + unitsPerOne := by
    rw [Nat.mul_assoc] at near
    omega
  have fits : natRank (divRound .away (units rank) unitsPerOne) < rankLimit :=
    (nearestRank_mono 1 whole_le).trans_lt (by decide +kernel)
  exact ⟨_, fits, ofRank_of_lt negative fits⟩

section Readouts

variable (negative : Bool) {rank : Nat} (h : rank < rankLimit)

theorem oneDecimal_eq_tenthsText
    (fits : productRank rank (natRank 10) < rankLimit) :
    ∃ tenths, oneDecimal (.finite negative rank h) =
      String.ofList (tenthsText negative tenths) := by
  obtain ⟨whole, whole_lt, rounded⟩ := exists_round_finite negative fits
  exact ⟨_, (oneDecimal_of_round negative h fits whole_lt rounded).trans
    (fixed_one_finite negative _)⟩

theorem oneDecimal_eq_infinityText
    (large : ¬ productRank rank (natRank 10) < rankLimit) :
    oneDecimal (.finite negative rank h) = infinityText negative := by
  have ten_lt : 10 < Nat.pow 2 64 := by decide
  have product : Binary64.finite negative rank h *
      .finite false (natRank 10) (natRank_lt ten_lt) = .infinite negative := by
    rw [mul_eq_ofRank]
    exact dif_neg large
  have quotient : Binary64.infinite negative /
      .finite false (natRank 10) (natRank_lt ten_lt) = .infinite negative := by
    cases negative <;> rfl
  rw [oneDecimal, ofNat_eq ten_lt, product]
  change (Binary64.infinite negative / _).fixed 1 = _
  rw [quotient]
  rfl

/-- Either the tenths are finite, or the reading is shown as infinite. -/
theorem oneDecimal_cases :
    (10 * magnitude rank < overflowBound ∧
        ∃ tenths, oneDecimal (.finite negative rank h) =
          String.ofList (tenthsText negative tenths)) ∨
      (¬ 10 * magnitude rank < overflowBound ∧
        oneDecimal (.finite negative rank h) = infinityText negative) := by
  rw [← productRank_ten_lt_iff]
  by_cases fits : productRank rank (natRank 10) < rankLimit
  · exact .inl ⟨fits, oneDecimal_eq_tenthsText negative h fits⟩
  · exact .inr ⟨fits, oneDecimal_eq_infinityText negative h fits⟩

end Readouts

theorem readouts_of_sensors (dashboard : Dashboard) (number : Binary64) :
    (dashboard.apply (.temperature number)).readouts.get? .temp =
        some (oneDecimal number) ∧
      (dashboard.apply (.humidity number)).readouts.get? .humid =
        some (oneDecimal number) :=
  ⟨rfl, rfl⟩

namespace Line

/--
A finite reading is shown with one place exactly if ten times its value is not
rounded to infinity.  Any greater reading is shown as infinite, with its sign.
-/
theorem sensors_show_numbers_iff (line : String) {number : Binary64}
    (member : .temperature number ∈ decode line ∨
      .humidity number ∈ decode line) :
    ∃ negative rank h text, number = .finite negative rank h ∧
      (∀ dashboard : Dashboard,
        (dashboard.apply (.temperature number)).readouts.get? .temp =
            some text ∧
          (dashboard.apply (.humidity number)).readouts.get? .humid =
            some text) ∧
      (IsOneDecimal text ↔ 10 * magnitude rank < overflowBound) ∧
      (¬ IsOneDecimal text → text = infinityText negative) := by
  have finite : number.isFinite = true := by
    rcases member with member | member <;> exact decode_isWellFormed member
  have shown := fun dashboard => readouts_of_sensors dashboard number
  cases number with
  | nan | infinite => cases finite
  | finite negative rank h =>
      refine ⟨negative, rank, h, _, rfl, shown, ?_⟩
      rcases oneDecimal_cases negative h with
        ⟨small, tenths, text_eq⟩ | ⟨large, text_eq⟩
      · have number := tenthsText_isOneDecimal negative tenths
        rw [text_eq]
        exact ⟨iff_of_true number small, fun other => absurd number other⟩
      · rw [text_eq]
        exact ⟨iff_of_false (infinityText_not_isOneDecimal negative) large,
          fun _ => rfl⟩

/-- A reading whose tenths are just in range, or its opposite. -/
def extremeReading (negative : Bool) : Binary64 :=
  .finite negative 0x7FB9999999999999 (by decide)

def extremeLine : String :=
  "temperature=1.7976931348623157e307, " ++
    "relative_humidity=-1.7976931348623157e307"

theorem extreme_readings_are_numbers :
    decode extremeLine = [.temperature (extremeReading false),
        .humidity (extremeReading true)] ∧
      ∀ negative, ∃ text, IsOneDecimal text ∧ ∀ dashboard : Dashboard,
        (dashboard.apply (.temperature
            (extremeReading negative))).readouts.get? .temp = some text ∧
          (dashboard.apply (.humidity
            (extremeReading negative))).readouts.get? .humid = some text := by
  have decoded : decode extremeLine = [.temperature (extremeReading false),
      .humidity (extremeReading true)] := by
    decide +kernel
  refine ⟨decoded, fun negative => ?_⟩
  have member : .temperature (extremeReading negative) ∈ decode extremeLine ∨
      .humidity (extremeReading negative) ∈ decode extremeLine := by
    cases negative <;> simp [decoded]
  obtain ⟨_, rank, _, text, same, shown, number_iff, -⟩ :=
    sensors_show_numbers_iff extremeLine member
  obtain ⟨-, rfl⟩ := Binary64.finite.inj same
  exact ⟨text, number_iff.mpr (productRank_ten_lt_iff.mp (by decide +kernel)),
    shown⟩

/-- Ten times this temperature is too great for a number. -/
def scorchingLine : String := "temperature=1.8e307, relative_humidity=50"

theorem scorching_reading_is_no_number :
    ∃ number, .temperature number ∈ decode scorchingLine ∧
      number.isFinite = true ∧
      (∀ dashboard : Dashboard,
        (dashboard.apply (.temperature number)).readouts.get? .temp =
          some "inf") ∧
      ¬ IsOneDecimal "inf" := by
  have decoded : decode scorchingLine =
      [.temperature (.finite false 0x7FB9A2028368022E (by decide)),
        .humidity (Binary64.ofNat 50)] := by
    decide +kernel
  have shown : oneDecimal (.finite false 0x7FB9A2028368022E (by decide)) =
      "inf" := by
    decide +kernel
  refine ⟨_, decoded ▸ List.mem_cons_self, rfl, fun dashboard => ?_,
    infinityText_not_isOneDecimal false⟩
  rw [(readouts_of_sensors dashboard _).1, shown]

end Line

end MeterWatch
