import MeterWatch.Decimal.Numeral
import MeterWatch.Line.Pattern
import MeterWatch.Reading
import MeterWatch.Text.Blank
import MeterWatch.Text.DecimalDigit

/-!
# Climate records

One record names a temperature and a relative humidity.  Each of the two
fields is read on its own.
-/

namespace MeterWatch.Line

open Text

def isClimateChar (c : Char) : Bool :=
  c == '-' || c == '+' || c == '.' || c == 'e' || c == 'E' || isDecimalDigit c

structure ClimateFields where
  celsius : List Char
  percent : List Char
  deriving DecidableEq, Repr

def climateFields? (text : List Char) : Option ClimateFields := do
  let record ← after? "temperature=" text
  let (celsius, rest) ← run? isClimateChar record
  let gap ← after? "," rest
  let field ← after? "relative_humidity=" (gap.dropWhile isBlank)
  let (percent, _) ← run? isClimateChar field
  return { celsius, percent }

def ClimateFields.readings (fields : ClimateFields) : List Reading :=
  ((readFinite? fields.celsius).map Reading.temperature).toList ++
    ((readFinite? fields.percent).map Reading.humidity).toList

def climateReadings (line : List Char) : List Reading :=
  ((leftmost? climateFields? line).map ClimateFields.readings).getD []

end MeterWatch.Line
