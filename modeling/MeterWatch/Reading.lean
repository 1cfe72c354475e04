import MeterWatch.Binary64.Basic
import MeterWatch.Clock

/-!
# Readings

The typed values that sensor lines carry.
-/

namespace MeterWatch

inductive Reading where
  /-- Whole-house watts, sent with `padding` leading zeros. -/
  | power (watts padding : Nat)
  | temperature (celsius : Binary64)
  | humidity (percent : Binary64)
  /-- The time of day as the power meter prints it. -/
  | clock (text : String)
  /-- The momentary demand a smart meter reports, in watts. -/
  | demand (watts : Binary64) (time : Instant)
  deriving DecidableEq, Repr

end MeterWatch
