import MeterWatch.Decimal.Numeral
import MeterWatch.Line.Pattern
import MeterWatch.Reading
import MeterWatch.Text.DecimalDigit

/-!
# Fields of the power meter

The meter prints its watts with leading zeros, its own temperature and its own
time of day.
-/

namespace MeterWatch.Line

open Text

/-! ## Watts -/

def powerField? (text : List Char) : Option (List Char) := do
  let field ← after? "<ch1><watts>" text
  runBefore? isDecimalDigit "</watts></ch1>" field

/-- The leading zeros of a field, of which the last digit is never one. -/
def leadingZeros (digits : List Char) : Nat :=
  min (digits.takeWhile (· == '0')).length (digits.length - 1)

def powerReading? (line : List Char) : Option Reading := do
  let digits ← leftmost? powerField? line
  let padding := leadingZeros digits
  let watts ← readDecimal? (digits.drop padding)
  return .power watts padding

/-! ## Temperature -/

def isTemperatureChar (c : Char) : Bool :=
  c == '-' || c == '.' || isDecimalDigit c

def temperatureField? (text : List Char) : Option (List Char) := do
  let field ← after? "<tmpr>" text
  runBefore? isTemperatureChar "</tmpr>" (field.dropWhile (· == ' '))

def temperatureReading? (line : List Char) : Option Reading := do
  let field ← leftmost? temperatureField? line
  let celsius ← readFinite? field
  return .temperature celsius

/-! ## Time of day -/

def isClockChar (c : Char) : Bool :=
  c == '-' || c == ':' || isDecimalDigit c

def clockField? (text : List Char) : Option (List Char) := do
  let field ← after? "<time>" text
  runBefore? isClockChar "</time>" field

def clockReading? (line : List Char) : Option Reading := do
  let field ← leftmost? clockField? line
  return .clock (String.ofList field)

end MeterWatch.Line
