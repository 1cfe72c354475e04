import MeterWatch.Dashboard
import MeterWatch.Proofs.Decimal.Whole
import MeterWatch.Proofs.Line.ScaledWatts

/-!
# Demand to the watt

The exact watts of a demand are a quotient of whole numbers.  Unless they are
halfway between two watts, the readout shows the watt that is nearest to them.
-/

namespace MeterWatch.Line

open Binary64 (rankLimit magnitude natRank_lt)

/-- Kilowatts are scaled by multiplier and divisor. -/
def exactWatts (demand multiplier divisor : Nat) : ℚ :=
  1000 * demand * factor multiplier / factor divisor

/-- At least five columns, the digits in the last ones. -/
def rightAligned (whole : Nat) : String :=
  let digits := Nat.toDigits 10 whole
  String.ofList (List.replicate (5 - digits.length) ' ' ++ digits)

theorem demandText_of_round {rank whole : Nat} (h : rank < rankLimit)
    (rounded : round (magnitude rank) = whole) (small : whole ≤ Nat.pow 2 53) :
    demandText (.finite false rank h) = rightAligned whole := by
  have fits : whole < Nat.pow 2 64 := Nat.lt_of_le_of_lt small (by decide)
  have text_eq : toString (whole : Int) =
      String.ofList (Nat.toDigits 10 whole) := rfl
  rw [demandText, round_finite false h rounded,
    Binary64.ofRatio_whole false fits,
    Binary64.toInt64_natRank small (natRank_lt fits), padLeft, text_eq,
    String.length_ofList, rightAligned, String.ofList_append]

theorem get?_watts_demand (dashboard : Dashboard) (watts : Binary64)
    (time : Instant) :
    (dashboard.apply (.demand watts time)).readouts.get? .watts =
      some (demandText watts) := rfl

section Exact

variable {demand multiplier divisor : Nat}

theorem exactWatts_eq (demand multiplier divisor : Nat) :
    exactWatts demand multiplier divisor =
      (1000 * (demand * factor multiplier) : ℕ) / (factor divisor : ℕ) := by
  rw [exactWatts]
  push_cast
  ring

theorem exactWatts_le (small : demand * factor multiplier ≤ 10 ^ 12) :
    exactWatts demand multiplier divisor ≤ 10 ^ 15 := by
  have one_le : (1 : ℚ) ≤ factor divisor :=
    Nat.one_le_cast.mpr (Nat.pos_of_ne_zero (factor_ne_zero divisor))
  have small' : (demand * factor multiplier : ℚ) ≤ 10 ^ 12 := by
    exact_mod_cast small
  rw [exactWatts, div_le_iff₀ (by linarith)]
  linarith

end Exact

/--
The demand of a record is shown to the nearest watt, right-aligned, unless the
exact watts are halfway between two.
-/
theorem demand_is_shown_to_the_watt {line : String} {places : List Nat}
    {fields : DemandFields} {time : Instant} {demand multiplier divisor : Nat}
    (first : IsFirstRecord line.toList places fields)
    (values : fields.HasValues time demand multiplier divisor)
    (small : demand * factor multiplier ≤ 10 ^ 12)
    (no_tie : ∀ n : Int, exactWatts demand multiplier divisor ≠ n + 1 / 2) :
    ∃ watts, ∃ whole : Nat, demands line = [(watts, time)] ∧
      (∀ other : Int, other ≠ whole →
        |exactWatts demand multiplier divisor - whole| <
          |exactWatts demand multiplier divisor - other|) ∧
      ∀ dashboard : Dashboard,
        (dashboard.apply (.demand watts time)).readouts.get? .watts =
          some (rightAligned whole) := by
  have nonneg : 0 ≤ exactWatts demand multiplier divisor := by
    unfold exactWatts
    positivity
  obtain ⟨whole, near⟩ := exists_near nonneg no_tie
  have nonzero := factor_ne_zero divisor
  have divisor_lt := factor_lt values.divisor.2
  obtain ⟨rank_lt, watts_eq⟩ := scaledWatts_eq values.demand.2
    (factor_lt values.multiplier.2) divisor_lt nonzero
  refine ⟨_, whole, demands_of_hasValues first values, fun other ne =>
    near.trans_le (half_le_of_near near.le ne), fun dashboard => ?_⟩
  have close := wattsRank_near divisor_lt nonzero
    (Nat.pos_of_ne_zero (factor_ne_zero multiplier)) small
  have whole_le : whole ≤ Nat.pow 2 53 := by
    have below := (abs_lt.mp near).1
    have bound := @exactWatts_le _ _ divisor small
    have less : (whole : ℚ) < 10 ^ 15 + 1 := by linarith
    have less' : whole < 10 ^ 15 + 1 := by exact_mod_cast less
    exact (Nat.le_of_lt less').trans (by decide)
  rw [exactWatts_eq] at near
  rw [get?_watts_demand, watts_eq, demandText_of_round rank_lt
    (round_of_near (near_of_scaled (Nat.pos_of_ne_zero nonzero) near close))
    whole_le]

/-- The watts of this line are a seventh below a whole number. -/
def seventhLine : String :=
  "<InstantaneousDemand><TimeStamp>0x01</TimeStamp><Demand>1000000</Demand>" ++
    "<Multiplier>0</Multiplier><Divisor>7</Divisor>"

theorem seventh_is_rounded_up :
    ∃ watts, demands seventhLine = [(watts, ⟨1, by decide⟩)] ∧
      ∀ dashboard : Dashboard,
        (dashboard.apply (.demand watts ⟨1, by decide⟩)).readouts.get? .watts =
          some "142857143" := by
  obtain ⟨places, first⟩ := exists_first_record
    (by decide +kernel : leftmost? demandFields? seventhLine.toList =
      some ⟨"0x01".toList, "1000000".toList, ['0'], ['7']⟩)
  have one : IsNumeral "0x01".toList 1 :=
    @IsNumeral.hex ['0', '1'] (by decide) (List.all_eq_true.mp rfl)
  have million : IsNumeral "1000000".toList 1000000 :=
    .decimal (by decide) (List.all_eq_true.mp rfl)
  have zero : IsNumeral ['0'] 0 :=
    .decimal (by decide) (List.all_eq_true.mp rfl)
  have seven : IsNumeral ['7'] 7 :=
    .decimal (by decide) (List.all_eq_true.mp rfl)
  have values : DemandFields.HasValues
      ⟨"0x01".toList, "1000000".toList, ['0'], ['7']⟩ ⟨1, by decide⟩
      1000000 0 7 :=
    ⟨⟨1, one, by decide, rfl⟩, ⟨million, by decide⟩, ⟨zero, by decide⟩,
      ⟨seven, by decide⟩⟩
  have watts_eq : exactWatts 1000000 0 7 = 1000000000 / 7 := by
    norm_num [exactWatts, factor]
  have no_tie : ∀ n : Int, exactWatts 1000000 0 7 ≠ n + 1 / 2 := by
    intro n tie
    rw [watts_eq] at tie
    have whole : (2000000000 : ℚ) = 14 * n + 7 := by linarith
    have whole' : (2000000000 : Int) = 14 * n + 7 := by exact_mod_cast whole
    omega
  obtain ⟨watts, whole, single, nearest, shown⟩ :=
    demand_is_shown_to_the_watt first values (by decide) no_tie
  have whole_eq : whole = 142857143 := by
    by_contra other
    have seventh : |exactWatts 1000000 0 7 - 142857143| = 1 / 7 := by
      rw [watts_eq]
      norm_num [abs_of_neg]
    have far := @half_le_of_near _ 142857143
      (by rw [Nat.cast_ofNat, seventh]; norm_num) whole (by omega)
    have less := nearest 142857143 (by omega)
    rw [Int.cast_natCast] at far
    rw [Int.cast_ofNat, seventh] at less
    linarith
  subst whole_eq
  exact ⟨watts, single, shown⟩

end MeterWatch.Line
