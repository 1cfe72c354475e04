import MeterWatch.Binary64.Arithmetic
import MeterWatch.Decimal.Notation

/-!
# Charts

A chart is a list of labelled values of one period, and its summary is what is
shown of it.
-/

namespace MeterWatch

inductive ChartUnit where
  | hour
  | day
  | month
  deriving DecidableEq, Repr

namespace ChartUnit

def all : List ChartUnit := [hour, day, month]

def parameter : ChartUnit → String
  | hour => "hour"
  | day => "day"
  | month => "month"

def label : ChartUnit → String
  | hour => "hourly"
  | day => "daily"
  | month => "monthly"

end ChartUnit

structure ChartRow where
  label : String
  value : Binary64
  deriving DecidableEq, Repr

structure ChartSummary where
  unit : ChartUnit
  points : Nat
  total : Binary64
  peak : Option ChartRow
  deriving DecidableEq, Repr

/-- Added up from the left, starting with -0.0. -/
def chartTotal (rows : List ChartRow) : Binary64 :=
  rows.foldl (fun total row => total + row.value) (.zero true)

/-- Of two rows the greater one, and of equal ones the later. -/
def higherRow (peak : Option ChartRow) (row : ChartRow) : Option ChartRow :=
  match peak with
  | none => some row
  | some best =>
      if row.value.totalKey < best.value.totalKey then some best else some row

/-- The last of the greatest finite values. -/
def chartPeak (rows : List ChartRow) : Option ChartRow :=
  (rows.filter (·.value.isFinite)).foldl higherRow none

def ChartSummary.ofRows (unit : ChartUnit) (rows : List ChartRow) :
    ChartSummary :=
  { unit, points := rows.length, total := chartTotal rows
    peak := chartPeak rows }

def ChartSummary.message (summary : ChartSummary) : String :=
  "[CHART] " ++ summary.unit.label ++ ": " ++
    match summary.peak with
    | some peak => toString summary.points ++ " points, total " ++
        summary.total.fixed 1 ++ ", peak " ++ peak.value.fixed 1 ++ " at " ++
        peak.label
    | none => "no data"

end MeterWatch
