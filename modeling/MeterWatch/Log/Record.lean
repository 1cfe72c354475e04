/-!
# Log records
-/

namespace MeterWatch

inductive Level where
  | error
  | warn
  | info
  | debug
  | trace
  deriving DecidableEq, Repr

namespace Level

def name : Level → String
  | error => "error"
  | warn => "warn"
  | info => "info"
  | debug => "debug"
  | trace => "trace"

/-- How much detail records of a level go into. -/
def detail : Level → Nat
  | error => 1
  | warn => 2
  | info => 3
  | debug => 4
  | trace => 5

end Level

/-- Who writes a record: a part of the program, or a view of the dashboard. -/
inductive Writer where
  | program
  | settings
  | poll
  | charts
  | readout
  | scrollback
  | errors
  deriving DecidableEq, Repr

namespace Writer

def target : Writer → String
  | program => "energy_monitor"
  | settings => "energy_monitor::config"
  | poll => "energy_monitor::scheduler"
  | charts => "energy_monitor::charts"
  | readout => "readout"
  | scrollback => "scrollback"
  | errors => "errors"

end Writer

structure Record where
  level : Level
  writer : Writer
  message : String
  deriving DecidableEq, Repr

end MeterWatch
