import MeterWatch.Chart.Board
import MeterWatch.Log.Console
import MeterWatch.Log.Filter
import MeterWatch.Poll.Session
import MeterWatch.Settings.Search

/-!
# The program

The program finds its settings, reports them, and then polls until a poll
fails.  Everything it does is decided here, up to the exchanges with a server.
-/

namespace MeterWatch.Program

/-! ## Start -/

structure Invocation where
  arguments : List String
  /-- The filter that the environment asks for. -/
  logFilter : Option String
  read : String → ReadResult

structure Setup where
  settings : Settings
  logUrl : Url
  /-- The source of the charts, if they are shown. -/
  chartUrl : Option Url
  filter : Log.Filter

structure Start where
  records : List Record
  /-- What to do next, or why there is nothing to do. -/
  setup : Except String Setup

/-- While settings are searched for, no filter is known yet. -/
def searchFilter : Log.Filter := [⟨none, Level.info.detail⟩]

/-- The settings, with records that depend on no filter and those that do. -/
def findSettings (invocation : Invocation) :
    Except Settings.LoadFault (Settings × List Record × List Record) := do
  match invocation.arguments with
  | path :: _ =>
      let settings ← Settings.load (invocation.read path)
      return (settings, [], [⟨.info, .program, Settings.loadedMessage path⟩])
  | [] =>
      let (settings, records) :=
        Settings.search invocation.read Settings.searchPaths
      return (settings, records.filter searchFilter.passes, [])

def chartSource? (settings : Settings) : Except AddressFault (Option Url) := do
  if settings.charts.enabled then return some (← chartUrl settings.queryUrl)
  else return none

def findAddresses (settings : Settings) :
    Except AddressFault (Option Url × Url) := do
  let charts ← chartSource? settings
  return (charts, ← logUrl settings.server.baseUrl)

def tailingRecord (url : Url) : Record :=
  ⟨.info, .program, "[STARTUP] Tailing " ++ toString url⟩

def start (invocation : Invocation) : Start :=
  match findSettings invocation with
  | .error fault => { records := [], setup := .error fault.message }
  | .ok (settings, searched, loaded) =>
      let filter := Log.Filter.choose invocation.logFilter
        settings.logging.level
      let shown (records : List Record) :=
        searched ++ records.filter filter.passes
      let reported := loaded ++ settings.summary
      match findAddresses settings with
      | .error fault =>
          { records := shown reported, setup := .error fault.message }
      | .ok (chartUrl, logUrl) =>
          { records := shown (reported ++ [tailingRecord logUrl])
            setup := .ok { settings, logUrl, chartUrl, filter } }

/-! ## Polling -/

def Setup.session (setup : Setup) : Session :=
  .new (.new setup.settings.zone) setup.settings.cursor
    setup.settings.display.logView

def Setup.emissionRecords (setup : Setup) (emission : Emission) :
    List Record :=
  let records := match emission with
    | .logged record => [record]
    | .announced event =>
        event.consoleRecords setup.settings.logging.showReadings
    | .requested _ | .waited _ => []
  records.filter setup.filter.passes

def Setup.chartRecords (setup : Setup) (emission : ChartEmission) :
    List Record :=
  let records := match emission with
    | .logged record => [record]
    | .announced event =>
        event.consoleRecords setup.settings.logging.showReadings
    | .requested _ => []
  records.filter setup.filter.passes

/-- Charts are refreshed at most once a second. -/
def Setup.refreshInterval (setup : Setup) : Duration :=
  .ofSeconds (max 1 setup.settings.charts.refreshSeconds)

/-- Polls with exchanges that are known beforehand. -/
def Setup.poll (setup : Setup) (ending : Exchange)
    (exchanges : List Exchange) : Session × List Emission :=
  let reply (exchange : Exchange) (cursor : Option Cursor) :=
    LogServer.reply setup.logUrl cursor exchange
  let stop (cursor : Option Cursor) : FetchFailure :=
    match reply ending cursor with
    | .error failure => failure
    | .ok _ => .unknown
  setup.session.run stop (exchanges.map reply)

/-! ## Whole runs -/

structure Report where
  exitCode : Nat
  error : Option String
  records : List Record
  emissions : List Emission

/-- A run of the program against a server that ends it in a known way. -/
def run (invocation : Invocation) (ending : Exchange)
    (exchanges : List Exchange) : Report :=
  let start := start invocation
  match start.setup with
  | .error message =>
      { exitCode := 1, error := some ("Error: " ++ message)
        records := start.records, emissions := [] }
  | .ok setup =>
      let (_, emissions) := setup.poll ending exchanges
      { exitCode := 0, error := none
        records := start.records ++ emissions.flatMap setup.emissionRecords
        emissions := emissions }

end MeterWatch.Program
