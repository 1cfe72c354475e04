import MeterWatch.Binary64.Rounding

/-!
# The shortest decimal of a number

Of the decimals that round to a given magnitude, the shortest has the fewest
digits, and of those it is the one nearest to the magnitude.  A grid of
decimals holds one if and only if one of the two grid points next to the
magnitude rounds to it, so two candidates are tried for each digit count.
-/

namespace MeterWatch.Binary64

/-- A decimal that is read as the number of this rank. -/
def readsBack (rank : Nat) (decimal : Decimal) : Bool :=
  rankOfDecimal decimal == rank

/-- Whether a fraction lies nearer to the whole number below it. -/
def isNearerBelow (tie : Tie) (num den : Nat) : Bool :=
  divRound tie num den == num / den

/--
Of the two neighbours of a magnitude among the multiples of `10 ^ exponent`,
the nearer one that reads back.
-/
def neighbour? (tie : Tie) (rank : Nat) (exponent : Int) : Option Decimal :=
  let num := units rank * Nat.pow 10 (-exponent).toNat
  let den := unitsPerOne * Nat.pow 10 exponent.toNat
  let lower : Decimal := ⟨num / den, exponent⟩
  let upper : Decimal := ⟨num / den + 1, exponent⟩
  let byDistance :=
    if isNearerBelow tie num den then [lower, upper] else [upper, lower]
  byDistance.find? (readsBack rank)

/-- The place of the leading digit of a positive magnitude. -/
def leadingPlace (rank : Nat) : Int :=
  digitCount (units rank * Nat.pow 10 400 / unitsPerOne) - 401

/-- A magnitude written out in full; its fraction ends at 10^-1074. -/
def exactDecimal (rank : Nat) : Decimal := 
  ⟨units rank * Nat.pow 5 1074, -1074⟩

/-- The upper neighbour on the one-digit grid may have two digits. -/
def carryTen (decimal : Decimal) : Decimal :=
  if decimal.digits = 10 then ⟨1, decimal.exponent + 1⟩ else decimal

/-- Seventeen digits always suffice. -/
def shortest (tie : Tie) (rank : Nat) : Decimal :=
  let places := (List.range 17).map fun (extra : Nat) =>
    leadingPlace rank - extra
  let found := places.findSome? (neighbour? tie rank)
  carryTen (found.getD (exactDecimal rank))

end MeterWatch.Binary64
