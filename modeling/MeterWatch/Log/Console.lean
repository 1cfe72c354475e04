import MeterWatch.Dashboard
import MeterWatch.Log.Record
import MeterWatch.Text.Blank

/-!
# Events on the console
-/

namespace MeterWatch

/-- Readings may be kept off the console; lines and errors are not. -/
def Event.consoleRecords (showReadings : Bool) : Event → List Record
  | .updated update =>
      if showReadings then
        [⟨.info, .readout,
          padLeft 5 update.quantity.name ++ " | " ++ update.text⟩]
      else []
  | .scrolled line =>
      [⟨.debug, .scrollback, Text.trimEnd Text.isBlank line⟩]
  | .failed message => [⟨.warn, .errors, message⟩]

end MeterWatch
