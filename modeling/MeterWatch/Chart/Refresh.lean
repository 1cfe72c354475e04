import MeterWatch.Chart.Body
import MeterWatch.Http.LogServer
import MeterWatch.Log.Record
import MeterWatch.Dashboard

/-!
# Refreshing charts

All three charts are asked for in turn.  One that fails is reported and does
not keep the others from being shown.
-/

namespace MeterWatch

def chartUrl (queryUrl : String) : Except AddressFault Url :=
  match Url.ofText? queryUrl.toList with
  | some url => .ok url
  | none => .error (.invalidChart queryUrl)

namespace ChartSet

def requestUrl (source : Url) (unit : ChartUnit) : Url :=
  source.addQuery "unit".toList unit.parameter.toList

/-! ## One chart -/

/-- Causes of a failure in one line, outermost first. -/
def causeChain (causes : List String) : String := ": ".intercalate causes

def isSuccess (status : Nat) : Bool := 200 ≤ status && status < 300

def readResponse (status : Nat) (body : String) :
    Except String (List ChartRow) :=
  if isSuccess status then
    match ChartBody.rows body with
    | .ok rows => .ok rows
    | .error fault => .error (causeChain ["malformed chart data",
        causeChain ["error decoding response body", fault], fault])
  else .error (FetchFailure.status status).message

def chartRows (source : Url) (unit : ChartUnit) (exchange : Exchange) :
    Except String (List ChartRow) :=
  match exchange.response? (requestUrl source unit) with
  | .ok (status, body) => readResponse status body
  | .error causes => .error (causeChain ("chart request failed" :: causes))

/-! ## All charts -/

inductive Outcome where
  | shown (summary : ChartSummary)
  | failed (message : String)
  deriving DecidableEq, Repr

def outcome (source : Url) (unit : ChartUnit) (exchange : Exchange) :
    Outcome :=
  match chartRows source unit exchange with
  | .ok rows => .shown (.ofRows unit rows)
  | .error cause =>
      .failed (unit.label ++ " chart: " ++ failureMessage (some cause))

def refresh (source : Url) (exchange : ChartUnit → Exchange) : List Outcome :=
  ChartUnit.all.map fun unit => outcome source unit (exchange unit)

def summaries (outcomes : List Outcome) : List ChartSummary :=
  outcomes.filterMap fun
    | .shown summary => some summary
    | .failed _ => none

def errors (outcomes : List Outcome) : List String :=
  outcomes.filterMap fun
    | .shown _ => none
    | .failed message => some message

def summaryRecord (summary : ChartSummary) : Record :=
  ⟨.info, .charts, summary.message⟩

def records (outcomes : List Outcome) : List Record :=
  (summaries outcomes).map summaryRecord

end ChartSet

end MeterWatch
