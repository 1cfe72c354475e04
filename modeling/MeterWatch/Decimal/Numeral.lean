import MeterWatch.Binary64.Rounding

/-!
# Decimal numerals

The numerals a sensor may print: an optional sign, digits with an optional
point and at least one digit beside it, and an optional exponent.
-/

namespace MeterWatch

/-! ## Parts of a numeral -/

structure Numeral where
  negative : Bool
  whole : List Char
  fraction : List Char
  exponent : Int
  deriving DecidableEq, Repr

namespace Numeral

def decimal (numeral : Numeral) : Decimal where
  digits := digitsValue (numeral.whole ++ numeral.fraction)
  exponent := numeral.exponent - numeral.fraction.length

def value (numeral : Numeral) : Binary64 :=
  Binary64.ofDecimal numeral.negative numeral.decimal

/-! ## Reading -/

def splitSign : List Char → Bool × List Char
  | '-' :: rest => (true, rest)
  | '+' :: rest => (false, rest)
  | text => (false, text)

def splitFraction : List Char → List Char × List Char
  | '.' :: rest => rest.span Char.isDigit
  | text => ([], text)

def isExponentMark (c : Char) : Bool := c == 'e' || c == 'E'

/-- What follows the digits must be an exponent or nothing at all. -/
def exponent? : List Char → Option Int
  | [] => some 0
  | mark :: rest =>
      let (negative, digits) := splitSign rest
      if isExponentMark mark && !digits.isEmpty && digits.all Char.isDigit then
        let size : Int := digitsValue digits
        some (if negative then -size else size)
      else none

def ofText? (text : List Char) : Option Numeral := do
  let (negative, unsigned) := splitSign text
  let (whole, afterWhole) := unsigned.span Char.isDigit
  let (fraction, afterFraction) := splitFraction afterWhole
  if whole.isEmpty && fraction.isEmpty then none
  let exponent ← exponent? afterFraction
  return { negative, whole, fraction, exponent }

end Numeral

/-- The nearest number to a numeral, unless it overflows. -/
def readFinite? (text : List Char) : Option Binary64 :=
  (Numeral.ofText? text).map Numeral.value |>.filter Binary64.isFinite

/-! ## Whole numbers of 64 bits -/

/-- The first number with too many bits for a 64-bit one, 2^64. -/
def uint64Limit : Nat := 0x10000000000000000

def readDecimal? (text : List Char) : Option Nat :=
  if !text.isEmpty && text.all Char.isDigit then
    let value := digitsValue text
    if value < uint64Limit then some value else none
  else none

def hexDigitValue? (c : Char) : Option Nat :=
  if c.isDigit then some (c.toNat - '0'.toNat)
  else if 'a' ≤ c ∧ c ≤ 'f' then some (c.toNat - 'a'.toNat + 10)
  else if 'A' ≤ c ∧ c ≤ 'F' then some (c.toNat - 'A'.toNat + 10)
  else none

def isHexDigit (c : Char) : Bool := (hexDigitValue? c).isSome

def hexValue (digits : List Char) : Nat :=
  digits.foldl (fun value digit => 16 * value + (hexDigitValue? digit).getD 0) 0

def readHex? (text : List Char) : Option Nat :=
  if !text.isEmpty && text.all isHexDigit then
    let value := hexValue text
    if value < uint64Limit then some value else none
  else none

end MeterWatch
