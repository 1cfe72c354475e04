import MeterWatch.Binary64.Arithmetic
import MeterWatch.Decimal.Notation
import MeterWatch.Reading

/-!
# The dashboard

Four readouts show the latest readings, and the scrollback keeps raw lines,
newest first.
-/

namespace MeterWatch

/-! ## Readouts -/

inductive Quantity where
  | watts
  | temp
  | humid
  | time
  deriving DecidableEq, Repr

namespace Quantity

def all : List Quantity := [watts, temp, humid, time]

def name : Quantity → String
  | watts => "watts"
  | temp => "temp"
  | humid => "humid"
  | time => "time"

end Quantity

structure Readouts where
  watts : Option String
  temp : Option String
  humid : Option String
  time : Option String
  deriving DecidableEq, Repr

namespace Readouts

def empty : Readouts := ⟨none, none, none, none⟩

def get? (readouts : Readouts) : Quantity → Option String
  | .watts => readouts.watts
  | .temp => readouts.temp
  | .humid => readouts.humid
  | .time => readouts.time

def set (readouts : Readouts) (quantity : Quantity) (text : String) :
    Readouts :=
  match quantity with
  | .watts => { readouts with watts := some text }
  | .temp => { readouts with temp := some text }
  | .humid => { readouts with humid := some text }
  | .time => { readouts with time := some text }

@[simp] theorem get?_set (readouts : Readouts) (quantity other : Quantity)
    (text : String) :
    (readouts.set quantity text).get? other =
      if quantity = other then some text else readouts.get? other := by
  cases quantity <;> cases other <;> rfl

end Readouts

/-! ## What a reading shows -/

/-- The text a readout is overwritten with. -/
structure Update where
  quantity : Quantity
  text : String
  deriving DecidableEq, Repr

def padLeft (width : Nat) (text : String) : String :=
  String.ofList (List.replicate (width - text.length) ' ') ++ text

/-- One place; halves of a tenth go away from zero. -/
def oneDecimal (value : Binary64) : String :=
  ((value * .ofNat 10).round / .ofNat 10).fixed 1

/-- Leading zeros of the power meter become spaces. -/
def powerText (watts padding : Nat) : String :=
  String.ofList (List.replicate padding ' ') ++ toString watts

/-- Whole watts in at least five columns. -/
def demandText (watts : Binary64) : String :=
  padLeft 5 (toString watts.round.toInt64)

def Reading.updates (zone : Zone) : Reading → List Update
  | .power watts padding => [⟨.watts, powerText watts padding⟩]
  | .temperature celsius => [⟨.temp, oneDecimal celsius⟩]
  | .humidity percent => [⟨.humid, oneDecimal percent⟩]
  | .clock text => [⟨.time, text⟩]
  | .demand watts time =>
      [⟨.watts, demandText watts⟩, ⟨.time, zone.format time⟩]

/-! ## State -/

structure Dashboard where
  zone : Zone
  readouts : Readouts
  scrollback : List String
  deriving DecidableEq, Repr

namespace Dashboard

def new (zone : Zone) : Dashboard := ⟨zone, .empty, []⟩

def write (dashboard : Dashboard) (update : Update) : Dashboard :=
  { dashboard with
    readouts := dashboard.readouts.set update.quantity update.text }

def apply (dashboard : Dashboard) (reading : Reading) : Dashboard :=
  (reading.updates dashboard.zone).foldl write dashboard

def prepend (dashboard : Dashboard) (line : String) : Dashboard :=
  { dashboard with scrollback := line :: dashboard.scrollback }

end Dashboard

/-! ## Events -/

/-- Whatever changes on the dashboard or its list of errors is announced. -/
inductive Event where
  | updated (update : Update)
  | scrolled (line : String)
  | failed (message : String)
  deriving DecidableEq, Repr

end MeterWatch
