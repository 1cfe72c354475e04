import MeterWatch.Decimal.Shortest

/-!
# Numbers as text

Three notations of the shortest decimal, and one with a fixed number of places:

* `plain` is always positional and has a point only before a fraction;
* `marked` has at least one place and an exponent outside 10^-4 to 10^16;
* `signed` differs from `marked` in where positional notation ends, in how it
  writes exponents, and in what it does with ties;
* `fixed` rounds to a given number of places.
-/

namespace MeterWatch

def signText (negative : Bool) : List Char := if negative then ['-'] else []

namespace Decimal

/-- Zeros in front, so that at least one digit stands before the point. -/
def paddedDigits (decimal : Decimal) : List Char :=
  let digits := Nat.toDigits 10 decimal.digits
  List.replicate ((-decimal.exponent).toNat + 1 - digits.length) '0' ++ digits

def positional (decimal : Decimal) : List Char :=
  if 0 ≤ decimal.exponent then
    Nat.toDigits 10 decimal.digits ++
      List.replicate decimal.exponent.toNat '0'
  else
    let digits := decimal.paddedDigits
    let whole := digits.length - (-decimal.exponent).toNat
    digits.take whole ++ '.' :: digits.drop whole

/-- Positional notation with a fraction, if only a single zero. -/
def withFraction (decimal : Decimal) : List Char :=
  if 0 ≤ decimal.exponent then decimal.positional ++ ['.', '0']
  else decimal.positional

/-- One digit, and the other digits as a fraction. -/
def mantissa (decimal : Decimal) : List Char :=
  match Nat.toDigits 10 decimal.digits with
  | digit :: second :: rest => digit :: '.' :: second :: rest
  | single => single

end Decimal

namespace Binary64

/-- A notation with exponents outside some places. -/
structure Style where
  lowestPlace : Int
  highestPlace : Int
  /-- Whether positive exponents have a sign. -/
  plusSign : Bool
  exponentDigits : Nat
  tie : Tie

def Style.exponentSign (style : Style) (place : Int) : List Char :=
  if place < 0 then ['-'] else if style.plusSign then ['+'] else []

def Style.exponent (style : Style) (place : Int) : List Char :=
  let digits := Nat.toDigits 10 place.natAbs
  'e' :: style.exponentSign place ++
    List.replicate (style.exponentDigits - digits.length) '0' ++ digits

def Style.isPositional (style : Style) (decimal : Decimal) : Bool :=
  style.lowestPlace ≤ decimal.leadingPlace &&
    decimal.leadingPlace ≤ style.highestPlace

def Style.magnitude (style : Style) (rank : Nat) : List Char :=
  let decimal := shortest style.tie rank
  if style.isPositional decimal then decimal.withFraction
  else decimal.mantissa ++ style.exponent decimal.leadingPlace

/-- Text around the magnitudes that are not zero. -/
def textWith (zeroText : String) (positive : Nat → List Char) :
    Binary64 → String
  | .nan => "NaN"
  | .infinite negative => String.ofList (signText negative ++ "inf".toList)
  | .finite negative rank _ =>
      String.ofList (signText negative ++
        if rank = 0 then zeroText.toList else positive rank)

def plain : Binary64 → String :=
  textWith "0" fun rank => (shortest .away rank).positional

def markedStyle : Style where
  lowestPlace := -4
  highestPlace := 15
  plusSign := false
  exponentDigits := 1
  tie := .away

def signedStyle : Style where
  lowestPlace := -5
  highestPlace := 15
  plusSign := true
  exponentDigits := 2
  tie := .toEven

def marked : Binary64 → String := textWith "0.0" markedStyle.magnitude

def signed : Binary64 → String := textWith "0.0" signedStyle.magnitude

/-- A half on the last place goes to the even digit. -/
def fixed (places : Nat) : Binary64 → String
  | .nan => "NaN"
  | .infinite negative => String.ofList (signText negative ++ "inf".toList)
  | .finite negative rank _ =>
      let digits :=
        divRound .toEven (units rank * Nat.pow 10 places) unitsPerOne
      String.ofList (signText negative ++ Decimal.positional ⟨digits, -places⟩)

end Binary64

end MeterWatch
