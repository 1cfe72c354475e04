import MeterWatch.Line.Climate
import MeterWatch.Line.Demand
import MeterWatch.Line.Meter

/-!
# Decoding lines

Several devices write to one log, so every line is offered to every reader.  A
line is recognised if it carries a field of any device, also one whose number
cannot be used.
-/

namespace MeterWatch.Line

/-- The readings of a line, those of the meter first. -/
def decode (line : String) : List Reading :=
  let text := line.toList
  (powerReading? text).toList ++ (temperatureReading? text).toList ++
    (clockReading? text).toList ++ (demandReading? text).toList ++
    climateReadings text

def isRecognised (line : String) : Bool :=
  let text := line.toList
  (leftmost? powerField? text).isSome ||
    (leftmost? temperatureField? text).isSome ||
    (leftmost? clockField? text).isSome ||
    (leftmost? demandFields? text).isSome ||
    (leftmost? climateFields? text).isSome

end MeterWatch.Line
