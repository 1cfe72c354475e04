import MeterWatch.Binary64.Basic
import MeterWatch.Decimal.Basic

/-!
# Rounding to binary64

A quotient of natural numbers is rounded once, to the nearest magnitude, and
of two equally near magnitudes to the one with the even significand.  Whole
numbers, fractions and decimals all come through `ofUnits`.
-/

namespace MeterWatch

/-! ## Rounded division -/

/-- Which neighbour a quotient halfway between two whole numbers goes to. -/
inductive Tie where
  | toEven
  | away
  deriving DecidableEq, Repr

def divRound (tie : Tie) (num den : Nat) : Nat :=
  let quotient := num / den
  let doubled := 2 * (num % den)
  if doubled < den then quotient
  else if den < doubled then quotient + 1
  else match tie with
    | .toEven => quotient + quotient % 2
    | .away => quotient + 1

/-- Twice the distance to the exact quotient is at most one. -/
theorem divRound_near (tie : Tie) (num : Nat) {den : Nat} (h : 0 < den) :
    2 * num ≤ (2 * divRound tie num den + 1) * den ∧
      2 * divRound tie num den * den ≤ 2 * num + den := by
  have split := Nat.div_add_mod num den
  have below := Nat.mod_lt num h
  have product : num / den * den = den * (num / den) := Nat.mul_comm ..
  simp only [divRound]
  split
  · constructor <;> grind
  · split
    · constructor <;> grind
    · cases tie
      · rcases Nat.mod_two_eq_zero_or_one (num / den) with even | odd
        · rw [even]; constructor <;> grind
        · rw [odd]; constructor <;> grind
      · constructor <;> grind

namespace Binary64

/-! ## Nearest magnitudes -/

/--
The rank nearest to a quotient counted in units.  A significand that is
rounded up to 2^53 carries into the rank by itself.
-/
def nearestRank (num den : Nat) : Nat :=
  let shift := (num / den).log2 - 52
  shift * binade + divRound .toEven num (den * Nat.pow 2 shift)

def ofUnits (negative : Bool) (num den : Nat) : Binary64 :=
  ofRank negative (nearestRank num den)

def ofRatio (negative : Bool) (num den : Nat) : Binary64 :=
  ofUnits negative (num * unitsPerOne) den

def ofNat (n : Nat) : Binary64 := ofRatio false n 1

def ofInt (n : Int) : Binary64 := ofRatio (n < 0) n.natAbs 1

/-! ## Decimals -/

def rankOfDecimal (decimal : Decimal) : Nat :=
  nearestRank (decimal.num * unitsPerOne) decimal.den

/--
The number nearest to a decimal.  The first two cases only keep the powers of
ten small: every decimal with its leading digit at 10^309 or above overflows,
and every one below 10^-330 is under half a unit.
-/
def ofDecimal (negative : Bool) (decimal : Decimal) : Binary64 :=
  if decimal.digits = 0 ∨ decimal.leadingPlace < -330 then zero negative
  else if 309 ≤ decimal.leadingPlace then .infinite negative
  else ofRank negative (rankOfDecimal decimal)

end Binary64

end MeterWatch
