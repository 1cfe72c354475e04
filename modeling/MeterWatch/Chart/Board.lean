import MeterWatch.Chart.Refresh

/-!
# Boards of charts

A board owns the errors of its charts.  A round asks for every chart in turn,
and lists in order what it shows to the outside.  The next round starts from the
board that the last one left.
-/

namespace MeterWatch

inductive ChartEmission where
  | requested (url : Url)
  | announced (event : Event)
  | logged (record : Record)
  deriving DecidableEq, Repr

structure ChartBoard where
  source : Url
  /-- Oldest first; never cleared. -/
  errors : List String
  deriving DecidableEq, Repr

namespace ChartBoard

def new (source : Url) : ChartBoard where
  source := source
  errors := []

def report (board : ChartBoard) (message : String) : ChartBoard :=
  { board with errors := board.errors ++ [message] }

/-- What comes of asking for charts. -/
structure Round where
  board : ChartBoard
  emissions : List ChartEmission
  summaries : List ChartSummary
  deriving DecidableEq, Repr

/-! ## One chart -/

/-- What is sent for a chart.  Only web servers are ever asked. -/
def request (board : ChartBoard) (unit : ChartUnit) : List ChartEmission :=
  let url := ChartSet.requestUrl board.source unit
  if Exchange.isSendable url then [.requested url] else []

def render (board : ChartBoard) (unit : ChartUnit) (exchange : Exchange) :
    Round :=
  match ChartSet.outcome board.source unit exchange with
  | .shown summary =>
      { board
        emissions := board.request unit ++
          [.logged (ChartSet.summaryRecord summary)]
        summaries := [summary] }
  | .failed message =>
      { board := board.report message
        emissions := board.request unit ++ [.announced (.failed message)]
        summaries := [] }

/-! ## Rounds -/

def renderAll (exchange : ChartUnit → Exchange) (board : ChartBoard) :
    List ChartUnit → Round
  | [] => { board, emissions := [], summaries := [] }
  | unit :: rest =>
      let first := board.render unit (exchange unit)
      let later := renderAll exchange first.board rest
      { board := later.board
        emissions := first.emissions ++ later.emissions
        summaries := first.summaries ++ later.summaries }

def refresh (board : ChartBoard) (exchange : ChartUnit → Exchange) : Round :=
  board.renderAll exchange ChartUnit.all

/-- Rounds one after the other, each with its own exchanges. -/
def rounds (board : ChartBoard) : List (ChartUnit → Exchange) → List Round
  | [] => []
  | exchange :: rest =>
      let round := board.refresh exchange
      round :: round.board.rounds rest

end ChartBoard

end MeterWatch
