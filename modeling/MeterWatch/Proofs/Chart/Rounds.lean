import MeterWatch.Chart.Board
import MeterWatch.Proofs.Failure

/-!
# Rounds of charts

A round asks for every chart, whatever became of those before it.  What is shown
of a chart depends on its own exchange only: its summary, or a message that is
both announced and kept.
-/

namespace MeterWatch

/-! ## What emissions show -/

namespace ChartEmission

def request? : ChartEmission → Option Url
  | requested url => some url
  | _ => none

def event? : ChartEmission → Option Event
  | announced event => some event
  | _ => none

def record? : ChartEmission → Option Record
  | logged record => some record
  | _ => none

def requests (emissions : List ChartEmission) : List Url :=
  emissions.filterMap request?

def events (emissions : List ChartEmission) : List Event :=
  emissions.filterMap event?

def records (emissions : List ChartEmission) : List Record :=
  emissions.filterMap record?

end ChartEmission

/-! ## One chart -/

namespace ChartSet

/-- What a server is asked for a chart, and how the messages of one start. -/
inductive IsKnownAs : ChartUnit → String → String → Prop
  | hour : IsKnownAs .hour "unit=hour" "hourly chart: "
  | day : IsKnownAs .day "unit=day" "daily chart: "
  | month : IsKnownAs .month "unit=month" "monthly chart: "

/-- The parameters of a source stay in front of one more. -/
def withParameter (source : Url) (parameter : String) : Url :=
  let query := match source.query with
    | none | some [] => parameter.toList
    | some kept => kept ++ '&' :: parameter.toList
  { source with query := some query }

/-- A message that starts with a name, and says what failed without the final
periods of the text. -/
def IsNotice (name text message : String) : Prop :=
  ∃ cause count, IsWithoutPeriods cause text count ∧
    message = name ++ "Request failed: " ++ cause ++ "."

/-- What an exchange makes of a chart with this name. -/
inductive Renders (source : Url) (unit : ChartUnit) (name : String) :
    Exchange → Outcome → Prop
  | shown {status body rows} (success : 200 ≤ status ∧ status < 300)
      (read : ChartBody.rows body = .ok rows) :
      Renders source unit name (.answered status body) (.shown (.ofRows unit rows))
  | malformed {status body fault message}
      (success : 200 ≤ status ∧ status < 300)
      (unread : ChartBody.rows body = .error fault)
      (notice : IsNotice name
        ("malformed chart data: error decoding response body: " ++ fault ++
          ": " ++ fault) message) :
      Renders source unit name (.answered status body) (.failed message)
  | refused {status body message}
      (failure : ¬ (200 ≤ status ∧ status < 300))
      (notice : IsNotice name ("server returned HTTP " ++ toString status)
        message) :
      Renders source unit name (.answered status body) (.failed message)
  | silent {cause message}
      (notice : IsNotice name
        (causeChain ("chart request failed" :: Exchange.failure
          (requestUrl source unit) "error sending request" cause.causes))
        message) :
      Renders source unit name (.silent cause) (.failed message)

variable {source : Url}

theorem requestUrl_isSendable (web : Exchange.isSendable source = true)
    (unit : ChartUnit) :
    Exchange.isSendable (requestUrl source unit) = true := web

theorem exists_isKnownAs (unit : ChartUnit) :
    ∃ parameter name, IsKnownAs unit parameter name := by
  cases unit
  · exact ⟨_, _, .hour⟩
  · exact ⟨_, _, .day⟩
  · exact ⟨_, _, .month⟩

section Known

variable {unit : ChartUnit} {parameter name : String}

theorem requestUrl_of_isKnownAs (known : IsKnownAs unit parameter name)
    (source : Url) : requestUrl source unit = withParameter source parameter := by
  have pair : Url.formEncode "unit".toList ++
      '=' :: Url.formEncode unit.parameter.toList = parameter.toList := by
    cases known <;> decide
  rw [requestUrl, Url.addQuery, pair, withParameter]
  split
  · rename_i given
    simp [given]
  · rename_i none_given
    rcases query_eq : source.query with - | - | ⟨first, rest⟩
    · rfl
    · rfl
    · exact absurd query_eq (none_given first rest)

theorem failureMessage_isNotice (known : IsKnownAs unit parameter name)
    (text : String) :
    IsNotice name text
      (unit.label ++ " chart: " ++ failureMessage (some text)) := by
  obtain ⟨count, without⟩ := trimEnd_isWithoutPeriods text
  have start : unit.label ++ " chart: " = name := by
    cases known <;> decide
  refine ⟨_, count, without, ?_⟩
  change unit.label ++ " chart: " ++
    ("Request failed: " ++ Text.trimEnd (· == '.') text ++ ".") = _
  rw [start, ← String.append_assoc, ← String.append_assoc]

end Known

theorem causeChain_malformed (fault : String) :
    causeChain ["malformed chart data",
        causeChain ["error decoding response body", fault], fault] =
      "malformed chart data: error decoding response body: " ++ fault ++
        ": " ++ fault := by
  rw [← String.toList_inj]
  simp [causeChain]

theorem isSuccess_iff (status : Nat) :
    isSuccess status = true ↔ 200 ≤ status ∧ status < 300 := by
  simp [isSuccess]

theorem outcome_renders (web : Exchange.isSendable source = true)
    {unit : ChartUnit} {parameter name : String}
    (known : IsKnownAs unit parameter name) (exchange : Exchange) :
    Renders source unit name exchange (outcome source unit exchange) := by
  have sendable := requestUrl_isSendable web unit
  have notice := failureMessage_isNotice known
  unfold outcome chartRows Exchange.response?
  rw [if_pos sendable]
  cases exchange with
  | silent cause => exact .silent (notice _)
  | answered status body =>
      by_cases success : isSuccess status = true
      · have bounds := (isSuccess_iff status).mp success
        simp only [readResponse, if_pos success]
        cases read : ChartBody.rows body with
        | ok rows => exact .shown bounds read
        | error fault =>
            refine .malformed bounds read ?_
            rw [← causeChain_malformed]
            exact notice _
      · simp only [readResponse, if_neg success]
        exact .refused (mt (isSuccess_iff status).mpr success) (notice _)

/-! ## All charts -/

section Outcomes

variable (summary : ChartSummary) (message : String) (rest : List Outcome)

@[simp] theorem summaries_shown :
    summaries (.shown summary :: rest) = summary :: summaries rest := rfl

@[simp] theorem summaries_failed :
    summaries (.failed message :: rest) = summaries rest := rfl

@[simp] theorem errors_shown :
    errors (.shown summary :: rest) = errors rest := rfl

@[simp] theorem errors_failed :
    errors (.failed message :: rest) = message :: errors rest := rfl

theorem summaries_append (first second : List Outcome) :
    summaries (first ++ second) = summaries first ++ summaries second :=
  List.filterMap_append

theorem errors_append (first second : List Outcome) :
    errors (first ++ second) = errors first ++ errors second :=
  List.filterMap_append

/-- Every outcome is either shown or reported. -/
theorem length_summaries_add_errors (outcomes : List Outcome) :
    (summaries outcomes).length + (errors outcomes).length =
      outcomes.length := by
  induction outcomes with
  | nil => rfl
  | cons outcome rest ih =>
      cases outcome with
      | shown summary =>
          rw [summaries_shown, errors_shown, List.length_cons,
            List.length_cons, ← ih]
          omega
      | failed message =>
          rw [summaries_failed, errors_failed, List.length_cons,
            List.length_cons, ← ih]
          omega

end Outcomes

def Outcome.emission : Outcome → ChartEmission
  | shown summary => .logged (summaryRecord summary)
  | failed message => .announced (.failed message)

/-- A chart is asked for before it is shown or reported. -/
def trace (source : Url) (unit : ChartUnit) (exchange : Exchange) :
    List ChartEmission :=
  [.requested (requestUrl source unit),
    (outcome source unit exchange).emission]

def outcomes (source : Url) (exchange : ChartUnit → Exchange)
    (units : List ChartUnit) : List Outcome :=
  units.map fun unit => outcome source unit (exchange unit)

section Traces

variable (source : Url) (exchange : ChartUnit → Exchange)

@[simp] theorem outcomes_cons (unit : ChartUnit) (rest : List ChartUnit) :
    outcomes source exchange (unit :: rest) =
      outcome source unit (exchange unit) ::
        outcomes source exchange rest := rfl

variable (units : List ChartUnit)

theorem requests_trace :
    ChartEmission.requests
        (units.flatMap fun unit => trace source unit (exchange unit)) =
      units.map (requestUrl source) := by
  induction units with
  | nil => rfl
  | cons unit rest ih =>
      rw [List.flatMap_cons, List.map_cons, ← ih, trace]
      cases outcome source unit (exchange unit) <;> rfl

/-- What is announced are the messages, and nothing else. -/
theorem events_trace :
    ChartEmission.events
        (units.flatMap fun unit => trace source unit (exchange unit)) =
      (errors (outcomes source exchange units)).map Event.failed := by
  induction units with
  | nil => rfl
  | cons unit rest ih =>
      rw [List.flatMap_cons, outcomes_cons, trace]
      cases outcome source unit (exchange unit) with
      | shown summary => exact ih
      | failed message => exact congrArg (Event.failed message :: ·) ih

theorem records_trace :
    ChartEmission.records
        (units.flatMap fun unit => trace source unit (exchange unit)) =
      records (outcomes source exchange units) := by
  induction units with
  | nil => rfl
  | cons unit rest ih =>
      rw [List.flatMap_cons, outcomes_cons, trace]
      cases outcome source unit (exchange unit) with
      | shown summary => exact congrArg (summaryRecord summary :: ·) ih
      | failed message => exact ih

theorem outcome_unit {source : Url} {unit : ChartUnit} {exchange : Exchange}
    {summary : ChartSummary}
    (shown : outcome source unit exchange = .shown summary) :
    summary.unit = unit := by
  unfold outcome at shown
  split at shown
  · cases shown
    rfl
  · cases shown

theorem summaries_in_order :
    ((summaries (outcomes source exchange units)).map
      ChartSummary.unit).Sublist units := by
  induction units with
  | nil => exact .slnil
  | cons unit rest ih =>
      rw [outcomes_cons]
      cases made : outcome source unit (exchange unit) with
      | shown summary =>
          rw [summaries_shown, List.map_cons, outcome_unit made]
          exact ih.cons_cons unit
      | failed message => exact ih.cons unit

end Traces

end ChartSet

namespace ChartBoard

open ChartSet (Outcome outcome outcomes requestUrl trace)

variable {source : Url}

/-! ## Rounds -/

theorem render_eq (web : Exchange.isSendable source = true)
    (before : List String) (exchange : ChartUnit → Exchange)
    (unit : ChartUnit) :
    (ChartBoard.mk source before).render unit (exchange unit) =
      { board := ⟨source,
          before ++ ChartSet.errors (outcomes source exchange [unit])⟩
        emissions := trace source unit (exchange unit)
        summaries :=
          ChartSet.summaries (outcomes source exchange [unit]) } := by
  have asked : (ChartBoard.mk source before).request unit =
      [.requested (requestUrl source unit)] :=
    if_pos (ChartSet.requestUrl_isSendable web unit)
  rw [ChartSet.outcomes_cons, render, asked, trace]
  cases outcome source unit (exchange unit) with
  | shown summary =>
      exact congrArg (fun errors => Round.mk ⟨source, errors⟩ _ _)
        (List.append_nil before).symm
  | failed message => rfl

theorem renderAll_eq (web : Exchange.isSendable source = true)
    (before : List String) (exchange : ChartUnit → Exchange)
    (units : List ChartUnit) :
    (ChartBoard.mk source before).renderAll exchange units =
      { board := ⟨source,
          before ++ ChartSet.errors (outcomes source exchange units)⟩
        emissions := units.flatMap fun unit =>
          trace source unit (exchange unit)
        summaries := ChartSet.summaries (outcomes source exchange units) } := by
  induction units generalizing before with
  | nil =>
      exact congrArg (fun errors => Round.mk ⟨source, errors⟩ _ _)
        (List.append_nil before).symm
  | cons unit rest ih =>
      -- The others are rendered on a board that holds the first message.
      have split : outcomes source exchange (unit :: rest) =
          outcomes source exchange [unit] ++ outcomes source exchange rest :=
        rfl
      rw [renderAll, render_eq web, ih, split, ChartSet.errors_append,
        ChartSet.summaries_append, List.append_assoc, List.flatMap_cons]

/-- What became of a round, when these messages were reported before. -/
structure Round.IsAccount (source : Url) (before : List String)
    (exchange : ChartUnit → Exchange) (round : Round) : Prop where
  requests : ChartEmission.requests round.emissions =
    ["unit=hour", "unit=day", "unit=month"].map (ChartSet.withParameter source)
  /-- Chart by chart, a request and what came of it. -/
  emissions : round.emissions =
    [.hour, .day, .month].flatMap fun unit =>
      trace source unit (exchange unit)
  summaries : round.summaries =
    ChartSet.summaries (ChartSet.refresh source exchange)
  in_order : (round.summaries.map ChartSummary.unit).Sublist
    [.hour, .day, .month]
  records : ChartEmission.records round.emissions =
    ChartSet.records (ChartSet.refresh source exchange)
  board : round.board =
    ⟨source, before ++ ChartSet.errors (ChartSet.refresh source exchange)⟩
  events : ChartEmission.events round.emissions =
    (ChartSet.errors (ChartSet.refresh source exchange)).map Event.failed
  complete : round.summaries.length +
    (ChartSet.errors (ChartSet.refresh source exchange)).length = 3

theorem refresh_isAccount (web : Exchange.isSendable source = true)
    (before : List String) (exchange : ChartUnit → Exchange) :
    ((ChartBoard.mk source before).refresh exchange).IsAccount source before
      exchange := by
  rw [refresh, renderAll_eq web]
  have asked : ChartUnit.all.map (requestUrl source) =
      ["unit=hour", "unit=day", "unit=month"].map
        (ChartSet.withParameter source) := by
    simp only [ChartUnit.all, List.map_cons, List.map_nil,
      ChartSet.requestUrl_of_isKnownAs .hour,
      ChartSet.requestUrl_of_isKnownAs .day,
      ChartSet.requestUrl_of_isKnownAs .month]
  exact
    { requests :=
        (ChartSet.requests_trace source exchange ChartUnit.all).trans asked
      emissions := rfl
      summaries := rfl
      in_order := ChartSet.summaries_in_order source exchange ChartUnit.all
      records := ChartSet.records_trace source exchange ChartUnit.all
      board := rfl
      events := ChartSet.events_trace source exchange ChartUnit.all
      complete := ChartSet.length_summaries_add_errors
        (ChartSet.refresh source exchange) }

/-- Every round starts with the messages that those before it have left. -/
inductive Accounts (source : Url) :
    List String → List (ChartUnit → Exchange) → List Round → Prop
  | nil {before} : Accounts source before [] []
  | cons {before exchange round replies rounds}
      (first : round.IsAccount source before exchange)
      (later : Accounts source round.board.errors replies rounds) :
      Accounts source before (exchange :: replies) (round :: rounds)

theorem rounds_accounts (web : Exchange.isSendable source = true)
    (before : List String) (replies : List (ChartUnit → Exchange)) :
    Accounts source before replies
      ((ChartBoard.mk source before).rounds replies) := by
  induction replies generalizing before with
  | nil => exact .nil
  | cons exchange rest ih =>
      have first := refresh_isAccount web before exchange
      refine .cons first ?_
      rw [first.board]
      exact ih _

/--
Round after round, all three charts are asked for in order.  Each is shown or
reported by what came of its own request, under its own name, and every message
is announced once and kept for good.
-/
theorem failures_stay_with_their_charts
    (web : Exchange.isSendable source = true)
    (replies : List (ChartUnit → Exchange)) :
    Accounts source [] replies ((ChartBoard.new source).rounds replies) ∧
      ∀ unit parameter name, ChartSet.IsKnownAs unit parameter name →
        requestUrl source unit = ChartSet.withParameter source parameter ∧
          ∀ exchange, ChartSet.Renders source unit name exchange
            (outcome source unit exchange) :=
  ⟨rounds_accounts web [] replies, fun _ _ _ known =>
    ⟨ChartSet.requestUrl_of_isKnownAs known source,
      ChartSet.outcome_renders web known⟩⟩

/-! ### A mixed round -/

def localCharts : Url where
  scheme := "http".toList
  authority := some ⟨[], none, .ipv4 0x7F000001, some 8080⟩
  path := .rooted ["query".toList]
  query := none
  fragment := none

/-- Only the daily chart comes. -/
def mixedReplies : ChartUnit → Exchange
  | .hour => .answered 502 ""
  | .day => .answered 200 "\x7b\"rows\":[[\"2024-01-01\",0.5]]\x7d"
  | .month => .answered 200 "[]"

/-- What a round with these replies reports. -/
def mixedErrors : List String :=
  let reason := "invalid length 0, expected struct ChartData with 1 element " ++
    "at line 1 column 2"
  ["hourly chart: Request failed: server returned HTTP 502.",
    "monthly chart: Request failed: malformed chart data: error decoding " ++
      "response body: " ++ reason ++ ": " ++ reason ++ "."]

theorem mixed_rounds_are_accounted :
    let rounds := (new localCharts).rounds [mixedReplies, mixedReplies]
    let targets := ["/query?unit=hour", "/query?unit=day", "/query?unit=month"]
    Exchange.isSendable localCharts = true ∧
      Accounts localCharts [] [mixedReplies, mixedReplies] rounds ∧
      rounds.map (fun round => (ChartEmission.requests round.emissions).map
        fun url => String.ofList url.target) = [targets, targets] ∧
      rounds.map (fun round => round.summaries.map ChartSummary.unit) =
        [[.day], [.day]] ∧
      rounds.map (fun round => round.board.errors) =
        [mixedErrors, mixedErrors ++ mixedErrors] := by
  intro rounds targets
  have web : Exchange.isSendable localCharts = true := by decide
  exact ⟨web, (failures_stay_with_their_charts web _).1, by decide +kernel,
    by decide +kernel, by decide +kernel⟩

end ChartBoard

end MeterWatch
