import MeterWatch.Program
import MeterWatch.Proofs.Http.Replies
import MeterWatch.Proofs.Http.Siblings
import MeterWatch.Proofs.Settings.Search

/-!
# How the program ends

The program starts with settings that it can find and addresses that it can
read, or it is refused before anything is sent.  Once started, it asks the
server for one reply after the other, up to the first that fails.
-/

namespace MeterWatch

open Emission LogServer

/-! ## Polling a server -/

namespace Session

theorem requests_pollAll_answering {url : Url}
    (web : Exchange.isSendable url = true)
    (ending : Option Cursor → FetchFailure) {last : Nat × String}
    (failing : IsFailing last) {session : Session}
    (active : session.phase ≠ .paused) (replies : List (Nat × String)) :
    ∃ count, IsFirstFailure (replies ++ [last]) count ∧
      requests (session.pollAll ending (replies.map (answering url))).2 =
        (List.range (count + 1)).map fun index =>
          heldAfter session.cursor (replies.take index) := by
  induction replies generalizing session with
  | nil =>
      exact ⟨0, isFirstFailure_zero failing, (pollAll_nil active ending).2⟩
  | cons reply rest ih =>
      have answer := answering_of_web web reply session.cursor
      by_cases fails : IsFailing reply
      · obtain ⟨failure, read⟩ := readResponse_of_failing fails
        refine ⟨0, isFirstFailure_zero fails, ?_⟩
        rw [List.map_cons, pollAll_failure active ending (answer.trans read)]
        rfl
      · obtain ⟨batch, body_read, read⟩ := readResponse_of_passing fails
        -- What is held after the batch is where the rest starts from.
        have held (index : Nat) :
            heldAfter session.cursor ((reply :: rest).take (index + 1)) =
              heldAfter (session.afterBatch batch).cursor
                (rest.take index) := by
          rw [List.take_succ_cons, heldAfter, List.foldl_cons, body_read]
          rfl
        have still_active : (session.afterBatch batch).phase ≠ .paused := by
          simp
        obtain ⟨count, first, asked⟩ := ih still_active
        refine ⟨count + 1, first.succ fails, ?_⟩
        rw [List.map_cons,
          requests_pollAll_batch active ending (answer.trans read), asked]
        symm
        rw [List.range_succ_eq_map, List.map_cons, List.map_map]
        exact congrArg (session.cursor :: ·)
          (List.map_congr_left fun index _ => held index)

end Session

/-! ## Refused invocations -/

/-- Charts are asked for at the address that is given, or else at the base with
a name in place of the slashes at its end. -/
inductive Settings.IsChartAddress (settings : Settings) : String → Prop
  | given {address} (given : settings.charts.queryUrl = some address) :
      IsChartAddress settings address
  | beside {base count} (unset : settings.charts.queryUrl = none)
      (slashes : settings.server.baseUrl.toList =
        base ++ List.replicate count '/')
      (other : base.getLast? ≠ some '/') :
      IsChartAddress settings (String.ofList (base ++ "/query".toList))

theorem Settings.isChartAddress_iff {settings : Settings} {address : String} :
    settings.IsChartAddress address ↔ address = settings.queryUrl := by
  unfold Settings.queryUrl
  constructor
  · intro named
    cases named with
    | given given => rw [given]
    | beside unset slashes other =>
        rw [unset, ← String.toList_inj]
        simp [Text.toList_trimEnd, slashes, rdropWhile_slashes other]
  · rintro rfl
    split
    · rename_i given
      exact .given given
    · rename_i unset
      obtain ⟨base, count, slashes, other⟩ :=
        exists_trailing_slashes settings.server.baseUrl.toList
      have address_eq : Text.trimEnd (· == '/') settings.server.baseUrl ++
          "/query" = String.ofList (base ++ "/query".toList) := by
        rw [← String.toList_inj]
        simp [Text.toList_trimEnd, slashes, rdropWhile_slashes other]
      rw [address_eq]
      exact .beside unset slashes other

namespace Program

/-- The settings of a run: those of the file that is named, or else those at
which a search of two files ends. -/
inductive Invocation.Finds (invocation : Invocation) : Settings → Prop
  | named {path rest text settings}
      (arguments : invocation.arguments = path :: rest)
      (read : invocation.read path = .ok text)
      (parsed : Settings.parse? text = some settings) :
      Finds invocation settings
  | searched {settings records} (arguments : invocation.arguments = [])
      (ends : Settings.Ends invocation.read
        ["config/monitor.toml", "../config/monitor.toml"] settings records) :
      Finds invocation settings

inductive Invocation.IsRefused (invocation : Invocation) : Prop
  | unfit {path rest} (arguments : invocation.arguments = path :: rest)
      (unread : ∀ text, invocation.read path = .ok text →
        Settings.parse? text = none)
  | chart {settings address} (found : invocation.Finds settings)
      (enabled : settings.charts.enabled = true)
      (named : settings.IsChartAddress address)
      (unparsable : Url.ofText? address.toList = none)
  | base {settings fault} (found : invocation.Finds settings)
      (rejected : logUrl settings.server.baseUrl = .error fault)

variable {invocation : Invocation}

/-- What is named is read, and nothing else is searched for. -/
theorem Invocation.Finds.exists_text {settings : Settings}
    (found : invocation.Finds settings) {path : String} {rest : List String}
    (given : invocation.arguments = path :: rest) :
    ∃ text, invocation.read path = .ok text ∧
      Settings.parse? text = some settings := by
  cases found with
  | searched none_given ends => simp [none_given] at given
  | named other_given read parsed =>
      rw [given] at other_given
      obtain ⟨rfl, -⟩ := List.cons.inj other_given
      exact ⟨_, read, parsed⟩

theorem Invocation.Finds.unique {settings other : Settings}
    (first : invocation.Finds settings) (second : invocation.Finds other) :
    settings = other := by
  cases first with
  | searched none_given ends =>
      cases second with
      | searched none_given other_ends =>
          exact (Prod.mk.inj (ends.search_eq.symm.trans other_ends.search_eq)).1
      | named given => simp [none_given] at given
  | named given read parsed =>
      obtain ⟨text, other_read, other_parsed⟩ := second.exists_text given
      rw [read, Except.ok.injEq] at other_read
      rw [other_read, other_parsed] at parsed
      exact (Option.some.inj parsed).symm

/-! ## Starting -/

theorem load_eq_ok {content : ReadResult} {settings : Settings}
    (loaded : Settings.load content = .ok settings) :
    ∃ text, content = .ok text ∧ Settings.parse? text = some settings := by
  cases content with
  | error fault => cases loaded
  | ok text =>
      rw [Settings.load] at loaded
      cases parsed : Settings.parse? text with
      | none => simp [parsed] at loaded
      | some other =>
          simp only [parsed, Except.ok.injEq] at loaded
          exact ⟨text, rfl, loaded ▸ parsed⟩

theorem load_eq_error {content : ReadResult} {fault : Settings.LoadFault}
    (unloaded : Settings.load content = .error fault) (text : String)
    (read : content = .ok text) : Settings.parse? text = none := by
  rw [read, Settings.load] at unloaded
  cases parsed : Settings.parse? text with
  | none => rfl
  | some settings => simp [parsed] at unloaded

theorem findSettings_cases (invocation : Invocation) :
    (∃ fault, findSettings invocation = .error fault ∧
        invocation.IsRefused) ∨
      ∃ settings searched loaded,
        findSettings invocation = .ok (settings, searched, loaded) ∧
          invocation.Finds settings := by
  unfold findSettings
  split
  · rename_i path rest given
    cases loaded : Settings.load (invocation.read path) with
    | error fault =>
        exact .inl ⟨fault, rfl, .unfit given (load_eq_error loaded)⟩
    | ok settings =>
        obtain ⟨text, read, parsed⟩ := load_eq_ok loaded
        exact .inr ⟨settings, _, _, rfl, .named given read parsed⟩
  · rename_i none_given
    obtain ⟨settings, records, ends⟩ :=
      Settings.exists_ends invocation.read Settings.searchPaths
    rw [ends.search_eq]
    exact .inr ⟨settings, _, _, rfl, .searched none_given ends⟩

/-- A setup for the settings that are found and the addresses in them. -/
structure Invocation.Allows (invocation : Invocation) (setup : Setup) :
    Prop where
  found : invocation.Finds setup.settings
  chartUrl : chartSource? setup.settings = .ok setup.chartUrl
  logUrl : logUrl setup.settings.server.baseUrl = .ok setup.logUrl

theorem chartSource?_eq_error {settings : Settings} {fault : AddressFault}
    (rejected : chartSource? settings = .error fault) :
    settings.charts.enabled = true ∧
      Url.ofText? settings.queryUrl.toList = none := by
  unfold chartSource? at rejected
  split at rejected
  · rename_i enabled
    refine ⟨enabled, ?_⟩
    cases parsed : Url.ofText? settings.queryUrl.toList with
    | none => rfl
    | some url =>
        rw [chartUrl, parsed] at rejected
        cases rejected
  · cases rejected

theorem start_cases (invocation : Invocation) :
    (∃ message, (start invocation).setup = .error message ∧
        invocation.IsRefused) ∨
      ∃ setup, (start invocation).setup = .ok setup ∧
        invocation.Allows setup := by
  rcases findSettings_cases invocation with
    ⟨fault, unfound, refused⟩ | ⟨settings, searched, loaded, found, finds⟩
  · exact .inl ⟨fault.message, by rw [start, unfound], refused⟩
  · simp only [start, found, findAddresses]
    cases charts : chartSource? settings with
    | error fault =>
        obtain ⟨enabled, unparsable⟩ := chartSource?_eq_error charts
        exact .inl ⟨_, rfl, .chart finds enabled
          (Settings.isChartAddress_iff.mpr rfl) unparsable⟩
    | ok chartUrl =>
        cases base : logUrl settings.server.baseUrl with
        | error fault => exact .inl ⟨_, rfl, .base finds base⟩
        | ok url => exact .inr ⟨_, rfl, finds, charts, base⟩

theorem Invocation.Allows.not_isRefused {setup : Setup}
    (allowed : invocation.Allows setup) : ¬ invocation.IsRefused := by
  intro refused
  cases refused with
  | unfit given unread =>
      obtain ⟨text, read, parsed⟩ := allowed.found.exists_text given
      rw [unread text read] at parsed
      cases parsed
  | chart found enabled named unparsable =>
      have shown := allowed.chartUrl
      rw [Settings.isChartAddress_iff.mp named] at unparsable
      rw [← found.unique allowed.found, chartSource?, if_pos enabled,
        MeterWatch.chartUrl, unparsable] at shown
      cases shown
  | base found rejected =>
      have accepted := allowed.logUrl
      rw [← found.unique allowed.found, rejected] at accepted
      cases accepted

theorem Invocation.Allows.chartUrl_eq_none {setup : Setup}
    (allowed : invocation.Allows setup)
    (disabled : setup.settings.charts.enabled ≠ true) :
    setup.chartUrl = none := by
  have source := allowed.chartUrl
  rw [chartSource?, if_neg disabled] at source
  exact (Except.ok.inj source).symm

theorem run_of_error {message : String}
    (stopped : (start invocation).setup = .error message) (ending : Exchange)
    (exchanges : List Exchange) :
    (run invocation ending exchanges).exitCode = 1 ∧
      (run invocation ending exchanges).emissions = [] := by
  simp [run, stopped]

theorem run_of_ok {setup : Setup}
    (started : (start invocation).setup = .ok setup) (ending : Exchange)
    (exchanges : List Exchange) :
    (run invocation ending exchanges).exitCode = 0 ∧
      (run invocation ending exchanges).emissions =
        (setup.poll ending exchanges).2 := by
  simp [run, started]

/-! ## Requests -/

/-- The path of the log, and the cursor if one is held. -/
def logTarget (url : Url) : Option Cursor → String
  | none => String.ofList url.path.text
  | some cursor => String.ofList url.path.text ++ "?ts=" ++ cursor.text

def IsGet (target text : String) : Prop :=
  ("GET " ++ target ++ " HTTP/1.1").toList <+: text.toList

/-- What is sent to the server of the log. -/
def Setup.requestTexts (setup : Setup) (emissions : List Emission) :
    List String :=
  (requests emissions).map fun cursor =>
    Http.requestText (LogServer.requestUrl setup.logUrl cursor)

theorem isGet_logTarget {baseUrl : String} {url : Url}
    (accepted : logUrl baseUrl = .ok url) (cursor : Option Cursor) :
    IsGet (logTarget url cursor)
      (Http.requestText (LogServer.requestUrl url cursor)) := by
  have target_eq : String.ofList (LogServer.requestUrl url cursor).target =
      logTarget url cursor := by
    cases cursor with
    | none => rw [target_unset accepted, logTarget]
    | some cursor =>
        rw [target_cursor accepted, logTarget, ← String.toList_inj]
        simp
  rw [IsGet, ← target_eq]
  exact target_sent cursor

theorem requests_poll {setup : Setup}
    (web : Exchange.isSendable setup.logUrl = true)
    (ending : Exchange) {last : Nat × String} (failing : IsFailing last)
    (replies : List (Nat × String)) :
    ∃ count, IsFirstFailure (replies ++ [last]) count ∧
      requests (setup.poll ending
          (replies.map fun reply => .answered reply.1 reply.2)).2 =
        (List.range (count + 1)).map fun index =>
          heldAfter (setup.settings.server.initialCursor.map Cursor.mk)
            (replies.take index) := by
  have active : setup.session.phase ≠ .paused := by
    simp [Setup.session, Session.new]
  simp only [Setup.poll, Session.requests_run, List.map_map]
  exact Session.requests_pollAll_answering web _ failing active replies

/--
Unless it is refused, a program without charts asks for the log once for every
reply up to the first that fails, the last being the one that the server gives
when it has no more.  It asks with the cursor to which the replies so far have
led from the number that is configured.  A program that is refused sends
nothing, and only then its exit code is 1.
-/
theorem asks_until_first_failure (invocation : Invocation)
    (charts : ∀ settings address, invocation.Finds settings →
      settings.charts.enabled = true → settings.IsChartAddress address →
        Url.ofText? address.toList = none)
    (server : ∀ settings url, invocation.Finds settings →
      logUrl settings.server.baseUrl = .ok url →
        Exchange.isSendable url = true)
    (replies : List (Nat × String)) :
    let report := run invocation (.answered 503 "")
      (replies.map fun reply => .answered reply.1 reply.2)
    (report.exitCode = 1 ↔ invocation.IsRefused) ∧
      (invocation.IsRefused → report.emissions = [] ∧
        ∃ message, (start invocation).setup = .error message) ∧
      (¬ invocation.IsRefused → report.exitCode = 0 ∧
        ∃ setup count, (start invocation).setup = .ok setup ∧
          invocation.Finds setup.settings ∧
          logUrl setup.settings.server.baseUrl = .ok setup.logUrl ∧
          setup.chartUrl = none ∧
          IsFirstFailure (replies ++ [(503, "")]) count ∧
          List.Forall₂ IsGet
            ((List.range (count + 1)).map fun index =>
              logTarget setup.logUrl (heldAfter
                (setup.settings.server.initialCursor.map Cursor.mk)
                (replies.take index)))
            (setup.requestTexts report.emissions)) := by
  intro report
  rcases start_cases invocation with
    ⟨message, stopped, refused⟩ | ⟨setup, started, allowed⟩
  · obtain ⟨exit_eq, emissions_eq⟩ := run_of_error stopped (.answered 503 "")
      (replies.map fun reply => .answered reply.1 reply.2)
    exact ⟨iff_of_true exit_eq refused,
      fun _ => ⟨emissions_eq, message, stopped⟩,
      fun accepted => absurd refused accepted⟩
  · obtain ⟨exit_eq, emissions_eq⟩ := run_of_ok started (.answered 503 "")
      (replies.map fun reply => .answered reply.1 reply.2)
    have accepted := allowed.not_isRefused
    have disabled : setup.settings.charts.enabled ≠ true := fun enabled =>
      have named := Settings.isChartAddress_iff.mpr rfl
      accepted (.chart allowed.found enabled named
        (charts _ _ allowed.found enabled named))
    have web := server _ _ allowed.found allowed.logUrl
    have busy : IsFailing (503, "") := .inl (by decide)
    obtain ⟨count, first, asked⟩ :=
      requests_poll web (.answered 503 "") busy replies
    have not_one : report.exitCode ≠ 1 := by
      rw [exit_eq]
      decide
    refine ⟨iff_of_false not_one accepted,
      fun refused => absurd refused accepted,
      fun _ => ⟨exit_eq, setup, count, started, allowed.found, allowed.logUrl,
        allowed.chartUrl_eq_none disabled, first, ?_⟩⟩
    rw [Setup.requestTexts, emissions_eq, asked, List.map_map,
      List.forall₂_map_left_iff, List.forall₂_map_right_iff,
      List.forall₂_same]
    exact fun index _ => isGet_logTarget allowed.logUrl _

/-! ### Runs without charts -/

/-- The file that is named holds this text. -/
def invocationOf (text : String) : Invocation where
  arguments := ["monitor.toml"]
  logFilter := none
  read := fun _ => .ok text

theorem invocationOf_finds {text : String} {settings other : Settings}
    (parsed : Settings.parse? text = some settings)
    (found : (invocationOf text).Finds other) : other = settings := by
  obtain ⟨same, read, other_parsed⟩ := found.exists_text rfl
  cases read
  rw [parsed] at other_parsed
  exact (Option.some.inj other_parsed).symm

theorem invocationOf_not_isRefused {text : String} {settings : Settings}
    {url : Url} (parsed : Settings.parse? text = some settings)
    (disabled : settings.charts.enabled = false)
    (base : logUrl settings.server.baseUrl = .ok url) :
    ¬ (invocationOf text).IsRefused := by
  have allowed :
      (invocationOf text).Allows ⟨settings, url, none, searchFilter⟩ :=
    { found := .named rfl rfl parsed
      chartUrl := by
        rw [chartSource?, disabled]
        rfl
      logUrl := base }
  exact allowed.not_isRefused

/-- The second reply offers an earlier cursor than the first, the third offers
none, and the fourth fails. -/
def fiveReplies : List (Nat × String) :=
  [(200, "\x7b\"log\":[],\"delay\":1,\"ts\":2\x7d"),
    (200, "\uFEFF\x7b\"log\":[],\"delay\":1,\"ts\":1\x7d"),
    (200, "\x7b\"log\":[],\"delay\":1\x7d"), (200, "["), (200, "")]

def AsksFor (text : String) (targets : List String) : Prop :=
  let report := run (invocationOf text) (.answered 503 "")
    (fiveReplies.map fun reply => .answered reply.1 reply.2)
  report.exitCode = 0 ∧
    ∃ setup, (start (invocationOf text)).setup = .ok setup ∧
      List.Forall₂ IsGet targets (setup.requestTexts report.emissions)

def localLog (path : List String) : Url where
  scheme := "http".toList
  authority := some ⟨[], none, .ipv4 0x7F000001, some 8000⟩
  path := .rooted (path.map String.toList)
  query := none
  fragment := none

def quietText : String := "[charts]\nenabled = false\n"

def resumedText : String :=
  "[server]\nbase_url = \"http://127.0.0.1:8000/api\"\n" ++
    "initial_cursor = 1.5\n[charts]\nenabled = false\n"

def quietSettings : Settings :=
  { Settings.default with
    charts := { ChartSettings.default with enabled := false } }

def resumedSettings : Settings :=
  { quietSettings with
    server :=
      { ServerSettings.default with
        baseUrl := "http://127.0.0.1:8000/api"
        initialCursor := some (.ofRatio false 3 2) } }

/-- The fourth request fails, so the fifth reply is never asked for. -/
theorem asks_four_times :
    AsksFor quietText ["/log", "/log?ts=2", "/log?ts=2", "/log?ts=2"] ∧
      AsksFor resumedText ["/api/log?ts=1.5", "/api/log?ts=2",
        "/api/log?ts=2", "/api/log?ts=2"] := by
  have fourth : IsFirstFailure (fiveReplies ++ [(503, "")]) 3 :=
    ⟨⟨_, rfl, by decide +kernel⟩, by decide +kernel⟩
  have asks {text : String} {targets : List String} (settings : Settings)
      (url : Url) (parsed : Settings.parse? text = some settings)
      (disabled : settings.charts.enabled = false)
      (base : logUrl settings.server.baseUrl = .ok url)
      (web : Exchange.isSendable url = true)
      (targets_eq : ((List.range 4).map fun index =>
        logTarget url (heldAfter (settings.server.initialCursor.map Cursor.mk)
          (fiveReplies.take index))) = targets) : AsksFor text targets := by
    have silent : ∀ other, (invocationOf text).Finds other →
        other.charts.enabled ≠ true := by
      intro other found
      simp [invocationOf_finds parsed found, disabled]
    have addressed : ∀ other otherUrl, (invocationOf text).Finds other →
        logUrl other.server.baseUrl = .ok otherUrl → otherUrl = url := by
      intro other otherUrl found accepted
      rw [invocationOf_finds parsed found, base] at accepted
      exact (Except.ok.inj accepted).symm
    obtain ⟨-, -, ran⟩ := asks_until_first_failure (invocationOf text)
      (fun other _ found enabled _ => absurd enabled (silent other found))
      (fun other otherUrl found accepted =>
        (addressed other otherUrl found accepted).symm ▸ web)
      fiveReplies
    obtain ⟨exit_eq, setup, count, started, found, built, -, first, asked⟩ :=
      ran (invocationOf_not_isRefused parsed disabled base)
    rw [addressed _ _ found built, invocationOf_finds parsed found,
      first.unique fourth, targets_eq] at asked
    exact ⟨exit_eq, setup, started, asked⟩
  exact ⟨asks quietSettings (localLog ["log"]) (by decide +kernel) rfl
      (by decide +kernel) (by decide) (by decide +kernel),
    asks resumedSettings (localLog ["api", "log"]) (by decide +kernel) rfl
      (by decide +kernel) (by decide) (by decide +kernel)⟩

end Program

end MeterWatch
