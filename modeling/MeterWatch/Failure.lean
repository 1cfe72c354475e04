import MeterWatch.Batch
import MeterWatch.Text.Blank

/-!
# Failed requests

Why a request brought no data, and the messages that say so.
-/

namespace MeterWatch

inductive FetchFailure where
  | network (text : String)
  | status (code : Nat)
  | malformed (reason : String)
  | invalidDelay (delay : Binary64)
  /-- The transport failed without saying why. -/
  | unknown
  deriving DecidableEq, Repr

namespace FetchFailure

def message : FetchFailure → String
  | network text => text
  | status code => "server returned HTTP " ++ toString code
  | malformed reason => "malformed response: " ++ reason
  | invalidDelay delay => "invalid delay " ++ delay.plain
  | unknown => "request failed"

/-- The message, if it is worth showing. -/
def cause? : FetchFailure → Option String
  | unknown => none
  | network text => if text.isEmpty then none else some text
  | failure => some failure.message

end FetchFailure

/-- What is shown for a failed request; the cause loses its final periods. -/
def failureMessage : Option String → String
  | some cause => "Request failed: " ++ Text.trimEnd (· == '.') cause ++ "."
  | none => "Request failed."

def pauseMessage (cause : Option String) : String :=
  failureMessage cause ++ "  Updates paused, reload to resume."

abbrev Reply := Except FetchFailure Batch

end MeterWatch
