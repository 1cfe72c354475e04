import MeterWatch.Settings.Basic
import MeterWatch.Toml.Reading

/-!
# Settings from TOML

A section is a table, or an array of its fields in order.  Fields that are
missing have their defaults, and whatever is not a field is ignored.
-/

namespace MeterWatch

open Toml

/-! ## Fields -/

def asString? : Value → Option String
  | .string text => some (String.ofList text)
  | _ => none

def asBool? : Value → Option Bool
  | .boolean value => some value
  | _ => none

/-- Only whole numbers that are not negative. -/
def asNat? : Value → Option Nat
  | .integer number => if 0 ≤ number then some number.toNat else none
  | _ => none

def asNumber? : Value → Option Binary64
  | .integer number => some (.ofInt number)
  | .real number => some number
  | _ => none

/-- The fields of a section.  A time counts as a table without fields. -/
def sectionFields? (names : List String) : Value → Option (List (Option Value))
  | .table _ entries =>
      some (names.map fun name => entries.lookup name.toList)
  | .array items | .tables items =>
      some ((List.range names.length).map fun index => items[index]?)
  | .time => some (names.map fun _ => none)
  | _ => none

/-- The value of a field that is there, or else the default. -/
def orDefault {α : Type} (read? : Value → Option α) (default : α) :
    Option Value → Option α
  | none => some default
  | some value => read? value

/-! ## Sections -/

def ServerSettings.ofValue? (value : Value) : Option ServerSettings := do
  let names := ["base_url", "request_timeout_seconds", "initial_cursor"]
  match ← sectionFields? names value with
  | [baseUrl, timeout, cursor] =>
      let defaults := ServerSettings.default
      return {
        baseUrl := ← orDefault asString? defaults.baseUrl baseUrl
        timeoutSeconds := ← orDefault asNat? defaults.timeoutSeconds timeout
        initialCursor := ← orDefault (fun value => some <$> asNumber? value)
          defaults.initialCursor cursor }
  | _ => none

def DisplaySettings.ofValue? (value : Value) : Option DisplaySettings := do
  match ← sectionFields? ["log_view", "utc_clock"] value with
  | [logView, utcClock] =>
      let defaults := DisplaySettings.default
      return {
        logView := ← orDefault asBool? defaults.logView logView
        utcClock := ← orDefault asBool? defaults.utcClock utcClock }
  | _ => none

def ChartSettings.ofValue? (value : Value) : Option ChartSettings := do
  match ← sectionFields? ["enabled", "query_url", "refresh_seconds"] value with
  | [enabled, queryUrl, refresh] =>
      let defaults := ChartSettings.default
      return {
        enabled := ← orDefault asBool? defaults.enabled enabled
        queryUrl := ← orDefault (fun value => some <$> asString? value)
          defaults.queryUrl queryUrl
        refreshSeconds := ← orDefault asNat? defaults.refreshSeconds refresh }
  | _ => none

def LogSettings.ofValue? (value : Value) : Option LogSettings := do
  match ← sectionFields? ["level", "show_readings"] value with
  | [level, showReadings] =>
      let defaults := LogSettings.default
      return {
        level := ← orDefault asString? defaults.level level
        showReadings := ← orDefault asBool? defaults.showReadings showReadings }
  | _ => none

/-! ## Documents -/

namespace Settings

def ofEntries? (entries : Entries) : Option Settings := do
  let part (name : String) := entries.lookup name.toList
  let server ← orDefault ServerSettings.ofValue? .default (part "server")
  let display ← orDefault DisplaySettings.ofValue? .default (part "display")
  let charts ← orDefault ChartSettings.ofValue? .default (part "charts")
  let logging ← orDefault LogSettings.ofValue? .default (part "logging")
  return { server, display, charts, logging }

def parse? (text : String) : Option Settings := do
  ofEntries? (← Toml.parse? text)

end Settings

end MeterWatch
