import MeterWatch.Dashboard
import MeterWatch.Proofs.Decimal.Overflow
import MeterWatch.Proofs.Decimal.Tenths
import MeterWatch.Proofs.Json.Positional
import MeterWatch.Proofs.Line.Sensors

/-!
# Sensor readings to a tenth

Sensors print at most two places.  What is shown is what rounding the numeral
itself would give, with halves away from zero: no step on the way from the text
of the sensor to the text of the readout moves a value across a half.
-/

namespace MeterWatch

open Binary64 hiding round

/-! ## Numbers of hundredths -/

/-- Once the scaled value is rounded it is only divided and written. -/
theorem oneDecimal_of_round (negative : Bool) {rank whole : Nat}
    (h : rank < rankLimit) (fits : productRank rank (natRank 10) < rankLimit)
    (whole_lt : natRank whole < rankLimit)
    (rounded : (finite negative _ fits).round = finite negative _ whole_lt) :
    oneDecimal (.finite negative rank h) =
      (finite negative _ (quotientRank_ten_lt whole_lt)).fixed 1 := by
  have ten_lt : 10 < Nat.pow 2 64 := by decide
  rw [oneDecimal, ofNat_eq ten_lt, mul_eq_productRank _ _ fits, rounded,
    div_eq_quotientRank _ _ (natRank_ne_zero (by decide))
      (quotientRank_ten_lt whole_lt)]

theorem oneDecimal_finite (negative : Bool) {rank tenths : Nat}
    (h : rank < rankLimit) (fits : productRank rank (natRank 10) < rankLimit)
    (rounded : round (magnitude (productRank rank (natRank 10))) = tenths)
    (small : tenths ≤ Nat.pow 2 44) :
    oneDecimal (.finite negative rank h) =
      String.ofList (tenthsText negative tenths) := by
  have tenths_lt : tenths < Nat.pow 2 64 := small.trans_lt (by decide)
  have whole_eq := round_finite negative fits rounded
  rw [ofRatio_whole negative tenths_lt] at whole_eq
  rw [oneDecimal_of_round negative h fits _ whole_eq,
    fixed_one negative _ (quotientRank_ten_near small)]

theorem oneDecimal_hundredths (negative : Bool) {hundredths : Nat}
    (small : hundredths ≤ 100 * Nat.pow 2 40) :
    ∃ h : rankOfDecimal ⟨hundredths, -2⟩ < rankLimit,
      oneDecimal (.finite negative _ h) =
        String.ofList (tenthsText negative ((hundredths + 5) / 10)) := by
  have fits : FitsIn (1062 + 54) (rankOfDecimal ⟨hundredths, -2⟩) := by
    rw [rankOfDecimal_hundredths]
    exact nearestRank_fits (by decide) small le_rfl
  have ten_lt : 10 < Nat.pow 2 64 := by decide
  have product_fits := @productRank_fits _ _ _ _ 1182 fits
    (natRank_fits ten_lt) (by decide) (by decide)
  have forty : Nat.pow 2 40 = 0x10000000000 := by decide
  have fortyFour : Nat.pow 2 44 = 0x100000000000 := by decide
  exact ⟨fits.lt_limit (by decide), oneDecimal_finite negative _
    (product_fits.lt_limit (by decide)) (round_productRank small) (by omega)⟩

/-! ## Numerals of sensors -/

theorem exists_hundredths {numeral : Numeral} (plain : numeral.exponent = 0)
    (places : numeral.fraction.length ≤ 2) :
    ∃ hundredths : Nat,
      numeral.decimal.value = Decimal.value ⟨hundredths, -2⟩ := by
  have exponent_eq : (-2 : Int) + (2 - numeral.fraction.length : ℕ) =
      numeral.decimal.exponent := by
    simp only [Numeral.decimal, plain]
    omega
  refine ⟨numeral.decimal.digits * 10 ^ (2 - numeral.fraction.length), ?_⟩
  rw [Decimal.value_shift, exponent_eq]

theorem value_hundredths (hundredths : Nat) :
    Decimal.value ⟨hundredths, -2⟩ = hundredths / 100 := by
  rw [Decimal.value, div_eq_mul_inv]
  norm_num

theorem exists_tenths {text : List Char} {numeral : Numeral}
    (spells : Numeral.Spells text numeral) (plain : numeral.exponent = 0)
    (places : numeral.fraction.length ≤ 2)
    (small : numeral.decimal.value < 2 ^ 40) :
    ∃ number, ∃ tenths : Nat, StandsFor text number ∧
      round (10 * numeral.decimal.value) = tenths ∧
      oneDecimal number =
        String.ofList (tenthsText numeral.negative tenths) := by
  obtain ⟨hundredths, value_eq⟩ := exists_hundredths plain places
  have exact := value_hundredths hundredths
  have bound : hundredths ≤ 100 * Nat.pow 2 40 := by
    rw [value_eq, exact] at small
    have less : (hundredths : ℚ) < 100 * 2 ^ 40 := by linarith
    exact_mod_cast less.le
  obtain ⟨rank_lt, shown⟩ := oneDecimal_hundredths numeral.negative bound
  have nearest := rankOfDecimal_isNearest numeral.decimal
  have tenfold : 10 * numeral.decimal.value = hundredths / 10 := by
    rw [value_eq, exact]
    ring
  rw [rankOfDecimal_congr value_eq] at nearest
  refine ⟨_, _, ⟨numeral, _, rank_lt, spells, nearest, rfl⟩, ?_, shown⟩
  rw [tenfold, round_hundredths]

namespace Line

section Members

variable {line : String} {place : Nat} {number : Binary64}

theorem temperature_mem_of_field {field : List Char}
    (first : IsFirst (IsTemperatureField line.toList) place field)
    (stands : StandsFor field number) : .temperature number ∈ decode line := by
  simp [decode_eq, (meterCelsius?_eq_some_iff first).mpr stands]

variable {fields : ClimateFields}
  (first : IsFirst (IsClimateRecord line.toList) place fields)

include first

theorem temperature_mem_of_record (stands : StandsFor fields.celsius number) :
    .temperature number ∈ decode line := by
  simp [decode_eq, (climateCelsius?_eq_some_iff first).mpr stands]

theorem humidity_mem_of_record (stands : StandsFor fields.percent number) :
    .humidity number ∈ decode line := by
  simp [decode_eq, (climatePercent?_eq_some_iff first).mpr stands]

end Members

/--
A field that spells a numeral of at most two places is read, and its readout
shows that numeral rounded to one place, with its sign.  It is the magnitude
that is rounded, so halves go away from zero.
-/
theorem decimals_are_rounded_half_away {text : List Char} {numeral : Numeral}
    (spells : Numeral.Spells text numeral) (plain : numeral.exponent = 0)
    (places : numeral.fraction.length ≤ 2)
    (small : numeral.decimal.value < 2 ^ 40) :
    ∃ number, ∃ tenths : Nat, readFinite? text = some number ∧
      round (10 * numeral.decimal.value) = tenths ∧
      (∀ line place, IsFirst (IsTemperatureField line.toList) place text →
        .temperature number ∈ decode line) ∧
      (∀ line place fields,
        IsFirst (IsClimateRecord line.toList) place fields →
          (fields.celsius = text → .temperature number ∈ decode line) ∧
            (fields.percent = text → .humidity number ∈ decode line)) ∧
      ∀ dashboard : Dashboard,
        (dashboard.apply (.temperature number)).readouts.get? .temp =
            some (String.ofList (tenthsText numeral.negative tenths)) ∧
          (dashboard.apply (.humidity number)).readouts.get? .humid =
            some (String.ofList (tenthsText numeral.negative tenths)) := by
  obtain ⟨number, tenths, stands, rounded, shown⟩ :=
    exists_tenths spells plain places small
  refine ⟨number, tenths, readFinite?_eq_some_iff.mpr stands, rounded,
    fun line place first => temperature_mem_of_field first stands,
    fun line place fields first => ⟨?_, ?_⟩, fun dashboard => ?_⟩
  · rintro rfl
    exact temperature_mem_of_record first stands
  · rintro rfl
    exact humidity_mem_of_record first stands
  · rw [← shown]
    exact ⟨rfl, rfl⟩

/-- The temperature of this line is a half that is no binary fraction. -/
def frostLine : String := "<tmpr> -4.35</tmpr>"

theorem frost_is_rounded_away :
    ∃ number, .temperature number ∈ decode frostLine ∧
      ∀ dashboard : Dashboard,
        (dashboard.apply (.temperature number)).readouts.get? .temp =
          some "-4.4" := by
  obtain ⟨place, first⟩ := leftmost?_temperatureField_iff.mp
    (by decide +kernel : leftmost? temperatureField? frostLine.toList =
      some "-4.35".toList)
  have spells : Numeral.Spells "-4.35".toList ⟨true, ['4'], ['3', '5'], 0⟩ :=
    Numeral.ofText?_eq_some_iff.mp (by decide)
  have value_eq : (Numeral.mk true ['4'] ['3', '5'] 0).decimal.value =
      435 / 100 := value_hundredths 435
  obtain ⟨number, tenths, -, rounded, meter, -, shown⟩ :=
    decimals_are_rounded_half_away spells rfl (by decide)
      (by rw [value_eq]; norm_num)
  have tenths_eq : round (10 * (435 / 100) : ℚ) = 44 := by
    rw [round_eq_iff]
    norm_num
  rw [value_eq, tenths_eq] at rounded
  obtain rfl : 44 = tenths := by exact_mod_cast rounded
  exact ⟨number, meter frostLine place first, fun dashboard =>
    (shown dashboard).1⟩

/-- The sign stays in front of a zero. -/
example : (readFinite? "-0.04".toList).map oneDecimal = some "-0.0" := by
  decide +kernel

end Line

end MeterWatch
