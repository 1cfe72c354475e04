import MeterWatch.Settings.Files
import MeterWatch.Settings.OfToml

/-!
# Finding settings

Settings are loaded from one given path, or from the first of several that
exists, can be read and fits.  A search reports what it skips and what it uses.
-/

namespace MeterWatch.Settings

/-! ## Loading -/

inductive LoadFault where
  | unreadable (fault : ReadFault)
  | unfit
  deriving DecidableEq, Repr

def LoadFault.message : LoadFault → String
  | unreadable fault => "Failed to read config file: " ++ fault.message
  | unfit => "Failed to parse config"

def load (content : ReadResult) : Except LoadFault Settings :=
  match content with
  | .error fault => .error (.unreadable fault)
  | .ok text =>
      match parse? text with
      | some settings => .ok settings
      | none => .error .unfit

/-! ## Searching -/

def loadedMessage (path : String) : String := "[CONFIG] Loaded from " ++ path

def skippedRecord (path : String) (fault : LoadFault) : Record :=
  ⟨.warn, .settings,
    "[CONFIG] Failed to load " ++ path ++ ": " ++ fault.message⟩

def defaultsRecord : Record :=
  ⟨.warn, .settings, "[CONFIG] No usable config file found - using defaults"⟩

def isThere : ReadResult → Bool
  | .ok _ => true
  | .error fault => fault.exists?

def search (read : String → ReadResult) : List String → Settings × List Record
  | [] => (default, [defaultsRecord])
  | path :: rest =>
      let content := read path
      if isThere content then
        match load content with
        | .ok settings =>
            (settings, [⟨.info, .settings, loadedMessage path⟩])
        | .error fault =>
            let (settings, records) := search read rest
            (settings, skippedRecord path fault :: records)
      else search read rest

def searchPaths : List String :=
  ["config/monitor.toml", "../config/monitor.toml"]

end MeterWatch.Settings
