import MeterWatch.Settings.Search

/-!
# The first usable file

A search walks through its paths up to the first whose file is there, can be
read and fits.  Every bad file before that is reported once, what is missing is
passed over in silence, and what comes behind is not looked at.
-/

namespace MeterWatch.Settings

/-! ## Single paths -/

inductive Verdict where
  | missing
  | bad (reason : String)
  | good (settings : Settings)

def unreadableReason (cause : String) : String :=
  "Failed to read config file: " ++ cause

/-- What a path is worth to a search, by what reading it gives. -/
inductive Yields : ReadResult → Verdict → Prop
  | nothing : Yields (.error .notFound) .missing
  | noDirectory : Yields (.error .notDirectory) .missing
  | unreachable {message} : Yields (.error (.unreachable message)) .missing
  | directory : Yields (.error .isDirectory)
      (.bad (unreadableReason "Is a directory (os error 21)"))
  | bytes : Yields (.error .notText)
      (.bad (unreadableReason "stream did not contain valid UTF-8"))
  | refused {message} : Yields (.error (.refused message))
      (.bad (unreadableReason message))
  | unparsable {text} (parsed : parse? text = none) :
      Yields (.ok text) (.bad "Failed to parse config")
  | usable {text settings} (parsed : parse? text = some settings) :
      Yields (.ok text) (.good settings)

theorem exists_yields (content : ReadResult) :
    ∃ verdict, Yields content verdict := by
  cases content with
  | error fault =>
      cases fault with
      | notFound => exact ⟨_, .nothing⟩
      | isDirectory => exact ⟨_, .directory⟩
      | notDirectory => exact ⟨_, .noDirectory⟩
      | notText => exact ⟨_, .bytes⟩
      | refused message => exact ⟨_, .refused⟩
      | unreachable message => exact ⟨_, .unreachable⟩
  | ok text =>
      cases parsed : parse? text with
      | none => exact ⟨_, .unparsable parsed⟩
      | some settings => exact ⟨_, .usable parsed⟩

def warning (path reason : String) : Record :=
  ⟨.warn, .settings, "[CONFIG] Failed to load " ++ path ++ ": " ++ reason⟩

section Steps

variable {read : String → ReadResult} {path : String}

theorem search_of_not_there (absent : isThere (read path) = false)
    (rest : List String) : search read (path :: rest) = search read rest := by
  rw [search, absent]
  rfl

theorem search_of_unloaded {fault : LoadFault}
    (present : isThere (read path) = true)
    (unloaded : load (read path) = .error fault) (rest : List String) :
    search read (path :: rest) =
      ((search read rest).1,
        skippedRecord path fault :: (search read rest).2) := by
  rw [search, present, unloaded]
  rfl

theorem search_missing (missing : Yields (read path) .missing)
    (rest : List String) : search read (path :: rest) = search read rest := by
  refine search_of_not_there ?_ rest
  generalize read path = content at missing
  cases missing <;> rfl

theorem search_bad {reason : String} (bad : Yields (read path) (.bad reason))
    (rest : List String) :
    search read (path :: rest) =
      ((search read rest).1, warning path reason :: (search read rest).2) := by
  obtain ⟨fault, present, unloaded, message⟩ : ∃ fault,
      isThere (read path) = true ∧ load (read path) = .error fault ∧
        fault.message = reason := by
    generalize read path = content at bad
    cases bad with
    | directory | bytes | refused => exact ⟨_, rfl, rfl, rfl⟩
    | unparsable parsed => exact ⟨.unfit, rfl, by simp [load, parsed], rfl⟩
  rw [search_of_unloaded present unloaded, skippedRecord, message, warning]

theorem search_good {settings : Settings}
    (good : Yields (read path) (.good settings)) (rest : List String) :
    search read (path :: rest) =
      (settings, [⟨.info, .settings, "[CONFIG] Loaded from " ++ path⟩]) := by
  obtain ⟨present, loaded⟩ :
      isThere (read path) = true ∧ load (read path) = .ok settings := by
    generalize read path = content at good
    cases good with
    | usable parsed => exact ⟨rfl, by simp [load, parsed]⟩
  rw [search, present, loaded]
  rfl

end Steps

/-! ## Paths in turn -/

/-- No path holds settings; each bad file is reported, in order. -/
inductive Passes (read : String → ReadResult) :
    List String → List Record → Prop
  | nil : Passes read [] []
  | missing {path rest warnings} (missing : Yields (read path) .missing)
      (others : Passes read rest warnings) :
      Passes read (path :: rest) warnings
  | bad {path rest reason warnings} (bad : Yields (read path) (.bad reason))
      (others : Passes read rest warnings) :
      Passes read (path :: rest) (warning path reason :: warnings)

/-- How a search ends, and what it has reported then. -/
inductive Ends (read : String → ReadResult) (paths : List String) :
    Settings → List Record → Prop
  | found {before path after settings warnings}
      (split : paths = before ++ path :: after)
      (passed : Passes read before warnings)
      (good : Yields (read path) (.good settings)) :
      Ends read paths settings
        (warnings ++ [⟨.info, .settings, "[CONFIG] Loaded from " ++ path⟩])
  | exhausted {warnings} (passed : Passes read paths warnings) :
      Ends read paths default
        (warnings ++ [⟨.warn, .settings,
          "[CONFIG] No usable config file found - using defaults"⟩])

section Runs

variable {read : String → ReadResult} {before : List String}
  {warnings : List Record}

theorem search_passed (passed : Passes read before warnings)
    (rest : List String) :
    search read (before ++ rest) =
      ((search read rest).1, warnings ++ (search read rest).2) := by
  induction passed with
  | nil => rfl
  | missing missing _ ih => rw [List.cons_append, search_missing missing, ih]
  | bad bad _ ih => rw [List.cons_append, search_bad bad, ih, List.cons_append]

theorem Ends.search_eq {paths : List String} {settings : Settings}
    {records : List Record} (ends : Ends read paths settings records) :
    search read paths = (settings, records) := by
  cases ends with
  | found split passed good =>
      rw [split, search_passed passed, search_good good]
  | exhausted passed =>
      have all := search_passed passed []
      rwa [List.append_nil] at all

/-- A path without settings only adds what is reported of it. -/
theorem Ends.behind {path : String} (reported : List Record)
    (step : ∀ {before warnings}, Passes read before warnings →
      Passes read (path :: before) (reported ++ warnings))
    {rest : List String} {settings : Settings} {records : List Record}
    (ends : Ends read rest settings records) :
    Ends read (path :: rest) settings (reported ++ records) := by
  cases ends with
  | found split passed good =>
      rw [← List.append_assoc]
      exact .found (congrArg (path :: ·) split) (step passed) good
  | exhausted passed =>
      rw [← List.append_assoc]
      exact .exhausted (step passed)

theorem exists_ends (read : String → ReadResult) (paths : List String) :
    ∃ settings records, Ends read paths settings records := by
  induction paths with
  | nil => exact ⟨_, _, .exhausted .nil⟩
  | cons path rest ih =>
      obtain ⟨settings, records, ends⟩ := ih
      obtain ⟨verdict, yields⟩ := exists_yields (read path)
      cases verdict with
      | missing => exact ⟨_, _, ends.behind [] (.missing yields)⟩
      | bad reason => exact ⟨_, _, ends.behind [_] (.bad yields)⟩
      | good settings =>
          have first := (List.nil_append (path :: rest)).symm
          exact ⟨_, _, .found first .nil yields⟩

theorem exists_passes
    (unusable : ∀ path ∈ before, ∀ settings,
      ¬ Yields (read path) (.good settings)) :
    ∃ warnings, Passes read before warnings := by
  induction before with
  | nil => exact ⟨_, .nil⟩
  | cons path rest ih =>
      obtain ⟨first, others⟩ := List.forall_mem_cons.mp unusable
      obtain ⟨warnings, passed⟩ := ih others
      obtain ⟨verdict, yields⟩ := exists_yields (read path)
      cases verdict with
      | missing => exact ⟨_, .missing yields passed⟩
      | bad reason => exact ⟨_, .bad yields passed⟩
      | good settings => exact absurd yields (first settings)

theorem Passes.congr {read' : String → ReadResult}
    (passed : Passes read before warnings)
    (same : ∀ path ∈ before, read' path = read path) :
    Passes read' before warnings := by
  induction passed with
  | nil => exact .nil
  | missing missing _ ih =>
      obtain ⟨first, others⟩ := List.forall_mem_cons.mp same
      exact .missing (first ▸ missing) (ih others)
  | bad bad _ ih =>
      obtain ⟨first, others⟩ := List.forall_mem_cons.mp same
      exact .bad (first ▸ bad) (ih others)

end Runs

/-! ## Searches -/

/--
A search ends with the settings of the first usable file or with the defaults,
and its records are the warnings of the bad files before and one that tells the
end.  Neither other paths nor other files behind the first usable one change
anything.
-/
theorem search_ends_at_first_usable (read : String → ReadResult)
    (paths : List String) :
    (∀ settings records, search read paths = (settings, records) ↔
        Ends read paths settings records) ∧
      ∀ before path after settings, paths = before ++ path :: after →
        (∀ earlier ∈ before, ∀ other,
          ¬ Yields (read earlier) (.good other)) →
        Yields (read path) (.good settings) →
          (search read paths).1 = settings ∧
            ∀ (read' : String → ReadResult) (after' : List String),
              (∀ seen ∈ before ++ [path], read' seen = read seen) →
                search read' (before ++ path :: after') =
                  search read paths := by
  refine ⟨fun settings records => ⟨fun found => ?_, Ends.search_eq⟩, ?_⟩
  · obtain ⟨settings', records', ends⟩ := exists_ends read paths
    obtain ⟨rfl, rfl⟩ := Prod.mk.inj (ends.search_eq.symm.trans found)
    exact ends
  · intro before path after settings split unusable good
    obtain ⟨warnings, passed⟩ := exists_passes unusable
    have found := (Ends.found split passed good).search_eq
    refine ⟨by rw [found], fun read' after' same => ?_⟩
    obtain ⟨same_before, same_path⟩ := List.forall_mem_append.mp same
    have good' : Yields (read' path) (.good settings) := by
      rwa [same_path path List.mem_cons_self]
    rw [found]
    exact (Ends.found rfl (passed.congr same_before) good').search_eq

/-! ### A search among bad files -/

def litteredDisk : String → ReadResult
  | "folder" => .error .isDirectory
  | "image.png" => .error .notText
  | "secret.toml" => .error (.refused "Permission denied (os error 13)")
  | "broken.toml" => .ok "[server\nbase_url = "
  | "monitor.toml" => .ok "[server]\nbase_url = \"http://pi.local:8000/\""
  | "monitor.toml/more" => .error .notDirectory
  | "locked/monitor.toml" =>
      .error (.unreachable "Permission denied (os error 13)")
  | _ => .error .notFound

/-- What `monitor.toml` says. -/
def localSettings : Settings :=
  { default with
    server := { ServerSettings.default with
      baseUrl := "http://pi.local:8000/" } }

theorem search_of_littered_disk :
    let before := ["missing.toml", "folder", "monitor.toml/more",
      "locked/monitor.toml", "image.png", "secret.toml", "broken.toml"]
    (∀ earlier ∈ before, ∀ other,
        ¬ Yields (litteredDisk earlier) (.good other)) ∧
      Yields (litteredDisk "monitor.toml") (.good localSettings) ∧
      ∀ after, search litteredDisk (before ++ "monitor.toml" :: after) =
        (localSettings,
          [warning "folder" (unreadableReason "Is a directory (os error 21)"),
            warning "image.png"
              (unreadableReason "stream did not contain valid UTF-8"),
            warning "secret.toml"
              (unreadableReason "Permission denied (os error 13)"),
            warning "broken.toml" "Failed to parse config",
            ⟨.info, .settings, "[CONFIG] Loaded from monitor.toml"⟩]) := by
  intro before
  have good : Yields (litteredDisk "monitor.toml") (.good localSettings) :=
    .usable (by decide +kernel)
  have broken : parse? "[server\nbase_url = " = none := by decide +kernel
  have unusable : ∀ earlier ∈ before, ∀ other,
      ¬ Yields (litteredDisk earlier) (.good other) := by
    intro earlier member other usable
    generalize content_eq : litteredDisk earlier = content at usable
    cases usable with
    | usable parsed =>
        simp only [before, List.mem_cons, List.not_mem_nil, or_false]
          at member
        rcases member with rfl | rfl | rfl | rfl | rfl | rfl | rfl
        case inr.inr.inr.inr.inr.inr =>
          cases content_eq
          rw [broken] at parsed
          cases parsed
        all_goals cases content_eq
  obtain ⟨-, unchanged⟩ := (search_ends_at_first_usable litteredDisk
    (before ++ ["monitor.toml"])).2 before "monitor.toml" [] localSettings
      rfl unusable good
  refine ⟨unusable, good, fun after => ?_⟩
  rw [unchanged litteredDisk after fun _ _ => rfl]
  decide +kernel

end MeterWatch.Settings
