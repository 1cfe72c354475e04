import MeterWatch.Batch
import MeterWatch.Clock
import MeterWatch.Log.Record
import MeterWatch.Text.Blank

/-!
# Settings

What the program can be told in its settings file.  Every setting has a
default, so any part of the file may be left out.
-/

namespace MeterWatch

structure ServerSettings where
  baseUrl : String
  timeoutSeconds : Nat
  /-- Where to continue, instead of at the start of the log. -/
  initialCursor : Option Binary64
  deriving DecidableEq, Repr

structure DisplaySettings where
  logView : Bool
  utcClock : Bool
  deriving DecidableEq, Repr

structure ChartSettings where
  enabled : Bool
  queryUrl : Option String
  refreshSeconds : Nat
  deriving DecidableEq, Repr

structure LogSettings where
  level : String
  showReadings : Bool
  deriving DecidableEq, Repr

structure Settings where
  server : ServerSettings
  display : DisplaySettings
  charts : ChartSettings
  logging : LogSettings
  deriving DecidableEq, Repr

/-! ## Defaults -/

def ServerSettings.default : ServerSettings where
  baseUrl := "http://127.0.0.1:8000/"
  timeoutSeconds := 30
  initialCursor := none

def DisplaySettings.default : DisplaySettings where
  logView := true
  utcClock := false

def ChartSettings.default : ChartSettings where
  enabled := true
  queryUrl := none
  refreshSeconds := 3600

def LogSettings.default : LogSettings where
  level := "info"
  showReadings := true

namespace Settings

def default : Settings where
  server := .default
  display := .default
  charts := .default
  logging := .default

/-! ## Derived settings -/

def requestTimeout (settings : Settings) : Duration :=
  .ofSeconds settings.server.timeoutSeconds

def cursor (settings : Settings) : Option Cursor :=
  settings.server.initialCursor.map Cursor.mk

def zone (settings : Settings) : Zone :=
  if settings.display.utcClock then .utc else .localTime

/-- Charts are asked for beside the log, unless another url is given. -/
def queryUrl (settings : Settings) : String :=
  match settings.charts.queryUrl with
  | some url => url
  | none => Text.trimEnd (· == '/') settings.server.baseUrl ++ "/query"

/-! ## Summary -/

def summaryLines (settings : Settings) : List String :=
  let rule := String.ofList (List.replicate 41 '─')
  ["┌" ++ rule ++ "┐",
    "│         MONITOR CONFIGURATION           │",
    "├" ++ rule ++ "┤",
    "│ Server: " ++ settings.server.baseUrl,
    "│ Timeout: " ++ toString settings.server.timeoutSeconds ++ "s",
    "│ Log View: " ++ toString settings.display.logView,
    "│ Charts: " ++ toString settings.charts.enabled ++ " (every " ++
      toString settings.charts.refreshSeconds ++ "s)",
    "│ Log Level: " ++ settings.logging.level,
    "└" ++ rule ++ "┘"]

def summary (settings : Settings) : List Record :=
  settings.summaryLines.map fun line => ⟨.info, .settings, line⟩

end Settings

end MeterWatch
