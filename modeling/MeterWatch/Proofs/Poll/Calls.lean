import MeterWatch.Poll.Session

/-!
# Calls on a session

The owner of a session polls once, runs it, or applies a batch from elsewhere.
A run is polls until one fails.  Sequences of calls are therefore taken apart
into steps, each a poll or a batch, and what every step keeps is kept by every
sequence of calls.
-/

namespace MeterWatch

/-! ## What emissions show -/

namespace Emission

def request? : Emission → Option (Option Cursor)
  | requested cursor => some cursor
  | _ => none

def event? : Emission → Option Event
  | announced event => some event
  | _ => none

def wait? : Emission → Option Duration
  | waited delay => some delay
  | _ => none

def requests (emissions : List Emission) : List (Option Cursor) :=
  emissions.filterMap request?

def events (emissions : List Emission) : List Event :=
  emissions.filterMap event?

/-- Requests and events: all that others get to see. -/
def isShown (emission : Emission) : Bool :=
  emission.request?.isSome || emission.event?.isSome

def waits (emissions : List Emission) : List Duration :=
  emissions.filterMap wait?

@[simp] theorem requests_append (first second : List Emission) :
    requests (first ++ second) = requests first ++ requests second :=
  List.filterMap_append

@[simp] theorem requests_requested (cursor : Option Cursor)
    (rest : List Emission) :
    requests (requested cursor :: rest) = cursor :: requests rest := rfl

@[simp] theorem requests_waited (delay : Duration) (rest : List Emission) :
    requests (waited delay :: rest) = requests rest := rfl

@[simp] theorem events_append (first second : List Emission) :
    events (first ++ second) = events first ++ events second :=
  List.filterMap_append

@[simp] theorem events_requested (cursor : Option Cursor)
    (rest : List Emission) :
    events (requested cursor :: rest) = events rest := rfl

@[simp] theorem waits_append (first second : List Emission) :
    waits (first ++ second) = waits first ++ waits second :=
  List.filterMap_append

@[simp] theorem waits_requested (cursor : Option Cursor)
    (rest : List Emission) :
    waits (requested cursor :: rest) = waits rest := rfl

@[simp] theorem waits_logged (record : Record) (rest : List Emission) :
    waits (logged record :: rest) = waits rest := rfl

@[simp] theorem waits_waited (delay : Duration) (rest : List Emission) :
    waits (waited delay :: rest) = delay :: waits rest := rfl

theorem filter_waited (delay : Duration) (rest : List Emission) :
    (waited delay :: rest).filter isShown = rest.filter isShown := rfl

theorem requests_filter_isShown (emissions : List Emission) :
    requests (emissions.filter isShown) = requests emissions := by
  rw [requests, List.filterMap_filter]
  congr
  funext emission
  cases emission <;> rfl

theorem events_filter_isShown (emissions : List Emission) :
    events (emissions.filter isShown) = events emissions := by
  rw [events, List.filterMap_filter]
  congr
  funext emission
  cases emission <;> rfl

end Emission

open Emission

namespace Session

/-! ## Single polls -/

/-- A session with another phase, other errors and another number of polls.
Everything else is changed by batches only. -/
def withPolling (session : Session) (phase : Phase) (errors : List String)
    (polls : Nat) : Session :=
  { session with
    phase := phase
    errors := errors
    stats := { session.stats with polls := polls } }

@[simp] theorem applyBatch_withPolling (session : Session) (phase : Phase)
    (errors : List String) (polls : Nat) (batch : Batch) :
    (session.withPolling phase errors polls).applyBatch batch =
      (session.applyBatch batch).withPolling .applying errors polls := rfl

def afterBatch (session : Session) (batch : Batch) : Session :=
  (session.applyBatch batch).withPolling (.scheduled batch.delay)
    session.errors (session.stats.polls + 1)

def afterFailure (session : Session) (failure : FetchFailure) : Session :=
  session.withPolling .paused
    (session.errors ++ [pauseMessage failure.cause?])
    (session.stats.polls + 1)

@[simp] theorem afterBatch_phase (session : Session) (batch : Batch) :
    (session.afterBatch batch).phase = .scheduled batch.delay := rfl

@[simp] theorem afterFailure_phase (session : Session)
    (failure : FetchFailure) :
    (session.afterFailure failure).phase = .paused := rfl

theorem poll_of_paused {session : Session} (paused : session.phase = .paused)
    (fetch : Option Cursor → Reply) :
    session.poll fetch = ⟨session, [], none⟩ := by
  simp [poll, paused]

theorem poll_of_answer {session : Session} {fetch : Option Cursor → Reply}
    {reply : Reply} (answer : fetch session.cursor = reply) :
    session.poll fetch = session.poll fun _ => reply := by
  simp only [poll, answer]

theorem poll_batch {session : Session} (active : session.phase ≠ .paused)
    (batch : Batch) :
    session.poll (fun _ => .ok batch) =
      ⟨session.afterBatch batch,
        .requested session.cursor :: session.batchEmissions batch,
        some batch.delay⟩ := by
  simp only [poll, if_neg active]
  rfl

theorem poll_failure {session : Session} (active : session.phase ≠ .paused)
    (failure : FetchFailure) :
    session.poll (fun _ => .error failure) =
      ⟨session.afterFailure failure,
        .requested session.cursor :: failureEmissions failure, none⟩ := by
  simp only [poll, if_neg active]
  rfl

/-! ## What a poll emits -/

private theorem filterMap_announced {α : Type} (show? : Emission → Option α)
    (silent : ∀ event, show? (.announced event) = none)
    (events : List Event) :
    (events.map Emission.announced).filterMap show? = [] := by
  simp [silent]

private theorem filterMap_logged {α : Type} (show? : Emission → Option α)
    (silent : ∀ record, show? (.logged record) = none)
    (records : List Record) :
    (records.map Emission.logged).filterMap show? = [] := by
  simp [silent]

@[simp] theorem requests_batchEmissions (session : Session) (batch : Batch) :
    requests (session.batchEmissions batch) = [] := by
  rw [batchEmissions, requests_append, requests, requests,
    filterMap_announced request? (fun _ => rfl),
    filterMap_logged request? (fun _ => rfl), List.append_nil]

@[simp] theorem waits_batchEmissions (session : Session) (batch : Batch) :
    waits (session.batchEmissions batch) = [] := by
  rw [batchEmissions, waits_append, waits, waits,
    filterMap_announced wait? (fun _ => rfl),
    filterMap_logged wait? (fun _ => rfl), List.append_nil]

@[simp] theorem requests_failureEmissions (failure : FetchFailure) :
    requests (failureEmissions failure) = [] := rfl

@[simp] theorem events_failureEmissions (failure : FetchFailure) :
    events (failureEmissions failure) =
      [.failed (pauseMessage failure.cause?)] := rfl

end Session

/-! ## Steps and calls -/

inductive Step where
  /-- A poll that the server answers with a reply. -/
  | poll (reply : Reply)
  | apply (batch : Batch)

inductive Call where
  | poll (reply : Reply)
  /-- A run against a server that gives these replies, and then fails without
  a reason. -/
  | run (replies : List Reply)
  | apply (batch : Batch)

namespace Call

def steps : Call → List Step
  | poll reply => [.poll reply]
  | run replies => replies.map .poll ++ [.poll (.error .unknown)]
  | apply batch => [.apply batch]

def isApply : Call → Bool
  | apply _ => true
  | _ => false

end Call

namespace Session

def inTurn {α : Type} (follow : Session → α → Session × List Emission)
    (session : Session) : List α → Session × List Emission
  | [] => (session, [])
  | order :: rest =>
      let (next, emissions) := follow session order
      let (final, later) := inTurn follow next rest
      (final, emissions ++ later)

def step (session : Session) : Step → Session × List Emission
  | .poll reply =>
      let result := session.poll fun _ => reply
      (result.session, result.emissions)
  | .apply batch => (session.applyBatch batch, session.batchEmissions batch)

def steps (session : Session) (steps : List Step) :
    Session × List Emission :=
  session.inTurn step steps

/-- Polls until a reply is a failure, at the latest when there are no more
replies. -/
def pollThrough (session : Session) (replies : List Reply) :
    Session × List Emission :=
  session.pollAll (fun _ => .unknown) (replies.map fun reply _ => reply)

def runThrough (session : Session) (replies : List Reply) :
    Session × List Emission :=
  session.run (fun _ => .unknown) (replies.map fun reply _ => reply)

def call (session : Session) : Call → Session × List Emission
  | .poll reply => session.step (.poll reply)
  | .run replies => session.runThrough replies
  | .apply batch => session.step (.apply batch)

def calls (session : Session) (calls : List Call) :
    Session × List Emission :=
  session.inTurn call calls

section InTurn

variable {α : Type} (follow : Session → α → Session × List Emission)
  (session : Session)

@[simp] theorem inTurn_nil : session.inTurn follow [] = (session, []) := rfl

@[simp] theorem inTurn_cons (order : α) (rest : List α) :
    session.inTurn follow (order :: rest) =
      (((follow session order).1.inTurn follow rest).1,
        (follow session order).2 ++
          ((follow session order).1.inTurn follow rest).2) := rfl

theorem inTurn_append (first second : List α) :
    session.inTurn follow (first ++ second) =
      (((session.inTurn follow first).1.inTurn follow second).1,
        (session.inTurn follow first).2 ++
          ((session.inTurn follow first).1.inTurn follow second).2) := by
  induction first generalizing session with
  | nil => simp
  | cons order rest ih => simp [ih, List.append_assoc]

end InTurn

/-! ## Runs are polls -/

theorem step_poll_of_paused {session : Session}
    (paused : session.phase = .paused) (reply : Reply) :
    session.step (.poll reply) = (session, []) := by
  simp [step, poll_of_paused paused]

theorem pollThrough_paused {session : Session}
    (paused : session.phase = .paused) (replies : List Reply) :
    session.pollThrough replies = (session, []) := by
  cases replies <;> simp [pollThrough, pollAll, poll_of_paused paused]

theorem pollThrough_nil {session : Session}
    (active : session.phase ≠ .paused) :
    session.pollThrough [] =
      (session.afterFailure .unknown,
        .requested session.cursor :: failureEmissions .unknown) := by
  simp [pollThrough, pollAll, poll_failure active]

theorem pollAll_failure {session : Session} (active : session.phase ≠ .paused)
    (ending : Option Cursor → FetchFailure) {fetch : Option Cursor → Reply}
    {failure : FetchFailure} (answer : fetch session.cursor = .error failure)
    (rest : List (Option Cursor → Reply)) :
    session.pollAll ending (fetch :: rest) =
      (session.afterFailure failure,
        .requested session.cursor :: failureEmissions failure) := by
  simp [pollAll, poll_of_answer answer, poll_failure active]

theorem pollAll_batch {session : Session} (active : session.phase ≠ .paused)
    (ending : Option Cursor → FetchFailure) {fetch : Option Cursor → Reply}
    {batch : Batch} (answer : fetch session.cursor = .ok batch)
    (rest : List (Option Cursor → Reply)) :
    session.pollAll ending (fetch :: rest) =
      (((session.afterBatch batch).pollAll ending rest).1,
        .requested session.cursor :: (session.batchEmissions batch ++
          .waited batch.delay ::
            ((session.afterBatch batch).pollAll ending rest).2)) := by
  simp [pollAll, poll_of_answer answer, poll_batch active]

theorem requests_pollAll_batch {session : Session}
    (active : session.phase ≠ .paused)
    (ending : Option Cursor → FetchFailure) {fetch : Option Cursor → Reply}
    {batch : Batch} (answer : fetch session.cursor = .ok batch)
    (rest : List (Option Cursor → Reply)) :
    requests (session.pollAll ending (fetch :: rest)).2 =
      session.cursor ::
        requests ((session.afterBatch batch).pollAll ending rest).2 := by
  simp [pollAll_batch active ending answer]

theorem requests_run (ending : Option Cursor → FetchFailure)
    (session : Session) (sources : List (Option Cursor → Reply)) :
    requests (session.run ending sources).2 =
      requests (session.pollAll ending sources).2 := by
  have emissions_eq : (session.run ending sources).2 =
      [.logged session.startRecord] ++ (session.pollAll ending sources).2 ++
        [.logged (session.pollAll ending sources).1.stopRecord] := rfl
  rw [emissions_eq, requests_append, requests_append]
  exact List.append_nil _

theorem pollThrough_failure {session : Session}
    (active : session.phase ≠ .paused) (failure : FetchFailure)
    (rest : List Reply) :
    session.pollThrough (.error failure :: rest) =
      (session.afterFailure failure,
        .requested session.cursor :: failureEmissions failure) :=
  pollAll_failure active _ rfl _

theorem pollThrough_batch {session : Session}
    (active : session.phase ≠ .paused) (batch : Batch) (rest : List Reply) :
    session.pollThrough (.ok batch :: rest) =
      (((session.afterBatch batch).pollThrough rest).1,
        .requested session.cursor :: (session.batchEmissions batch ++
          .waited batch.delay ::
            ((session.afterBatch batch).pollThrough rest).2)) :=
  pollAll_batch active _ rfl _

theorem steps_run_paused {session : Session}
    (paused : session.phase = .paused) (replies : List Reply) :
    session.steps (Call.run replies).steps = (session, []) := by
  induction replies with
  | nil => simp [Call.steps, steps, step, poll_of_paused paused]
  | cons reply rest ih =>
      simp only [Call.steps, List.map_cons, List.cons_append, steps,
        inTurn_cons, step, poll_of_paused paused, List.nil_append] at ih ⊢
      exact ih

theorem steps_run_cons (session : Session) (reply : Reply)
    (rest : List Reply) :
    session.steps (Call.run (reply :: rest)).steps =
      let result := session.poll fun _ => reply
      let later := result.session.steps (Call.run rest).steps
      (later.1, result.emissions ++ later.2) := rfl

/-- An outcome without what is logged and waited for. -/
def shown (outcome : Session × List Emission) : Session × List Emission :=
  (outcome.1, outcome.2.filter Emission.isShown)

theorem requests_eq_of_shown {left right : Session × List Emission}
    (same : shown left = shown right) :
    requests left.2 = requests right.2 := by
  rw [← requests_filter_isShown left.2, ← requests_filter_isShown right.2]
  exact congrArg (fun outcome => requests outcome.2) same

theorem events_eq_of_shown {left right : Session × List Emission}
    (same : shown left = shown right) :
    events left.2 = events right.2 := by
  rw [← events_filter_isShown left.2, ← events_filter_isShown right.2]
  exact congrArg (fun outcome => events outcome.2) same

theorem shown_pollThrough (session : Session) (replies : List Reply) :
    shown (session.pollThrough replies) =
      shown (session.steps (Call.run replies).steps) := by
  induction replies generalizing session with
  | nil => simp [pollThrough, pollAll, Call.steps, steps, step]
  | cons reply rest ih =>
      by_cases paused : session.phase = .paused
      · rw [pollThrough_paused paused, steps_run_paused paused]
      · rw [steps_run_cons]
        cases reply with
        | error failure =>
            -- The polls after the failure find a paused session.
            rw [pollThrough_failure paused, poll_failure paused]
            simp only [steps_run_paused (afterFailure_phase ..),
              List.append_nil]
        | ok batch =>
            have later := ih (session.poll fun _ => .ok batch).session
            rw [pollThrough_batch paused]
            rw [poll_batch paused] at later ⊢
            simp only [shown, Prod.mk.injEq, ← List.cons_append,
              List.filter_append] at later ⊢
            exact ⟨later.1, by rw [filter_waited, later.2]⟩

theorem shown_runThrough (session : Session) (replies : List Reply) :
    shown (session.runThrough replies) =
      shown (session.pollThrough replies) := by
  simp [shown, runThrough, run, pollThrough, isShown, request?, event?]

theorem shown_call (session : Session) (call : Call) :
    shown (session.call call) = shown (session.steps call.steps) := by
  cases call with
  | run replies =>
      exact (shown_runThrough session replies).trans
        (shown_pollThrough session replies)
  | poll reply => simp [Session.call, Call.steps, steps]
  | apply batch => simp [Session.call, Call.steps, steps]

/-- Calls do what their steps do. -/
theorem shown_calls (session : Session) (calls : List Call) :
    shown (session.calls calls) =
      shown (session.steps (calls.flatMap Call.steps)) := by
  induction calls generalizing session with
  | nil => rfl
  | cons call rest ih =>
      have first := shown_call session call
      have later := ih (session.call call).1
      simp only [shown, Prod.mk.injEq, Session.calls, steps, inTurn_cons,
        List.flatMap_cons, inTurn_append, List.filter_append]
        at first later ⊢
      rw [first.1] at later ⊢
      exact ⟨later.1, by rw [first.2, later.2]⟩

theorem calls_session (session : Session) (calls : List Call) :
    (session.calls calls).1 =
      (session.steps (calls.flatMap Call.steps)).1 :=
  (Prod.mk.inj (session.shown_calls calls)).1

theorem requests_calls (session : Session) (calls : List Call) :
    requests (session.calls calls).2 =
      requests (session.steps (calls.flatMap Call.steps)).2 :=
  requests_eq_of_shown (session.shown_calls calls)

theorem events_calls (session : Session) (calls : List Call) :
    events (session.calls calls).2 =
      events (session.steps (calls.flatMap Call.steps)).2 :=
  events_eq_of_shown (session.shown_calls calls)

/-! ## Applied batches -/

def applyAll (session : Session) (batches : List Batch) : Session :=
  batches.foldl applyBatch session

/-- What a step applies.  Replies to a paused session are never asked for. -/
def appliedBy (session : Session) : Step → List Batch
  | .poll (.ok batch) => if session.phase = .paused then [] else [batch]
  | .poll (.error _) => []
  | .apply batch => [batch]

theorem length_appliedBy (session : Session) (order : Step) :
    (session.appliedBy order).length ≤ 1 := by
  cases order with
  | apply batch => exact Nat.le_refl 1
  | poll reply =>
      cases reply with
      | error failure => exact Nat.zero_le 1
      | ok batch =>
          simp only [appliedBy]
          split <;> simp

def applied (session : Session) : List Step → List Batch
  | [] => []
  | step :: rest => session.appliedBy step ++ (session.step step).1.applied rest

theorem applyAll_append (session : Session) (first second : List Batch) :
    session.applyAll (first ++ second) =
      (session.applyAll first).applyAll second :=
  List.foldl_append

/-- At most what polling changes is different. -/
def SameContent (left right : Session) : Prop :=
  ∃ phase errors polls, left = right.withPolling phase errors polls

namespace SameContent

variable {left middle right : Session}

theorem refl (session : Session) : SameContent session session :=
  ⟨session.phase, session.errors, session.stats.polls, rfl⟩

theorem trans (first : SameContent left middle)
    (second : SameContent middle right) : SameContent left right := by
  obtain ⟨phase, errors, polls, rfl⟩ := first
  obtain ⟨_, _, _, rfl⟩ := second
  exact ⟨phase, errors, polls, rfl⟩

theorem applyAll (same : SameContent left right) (batches : List Batch) :
    SameContent (left.applyAll batches) (right.applyAll batches) := by
  induction batches generalizing left right with
  | nil => exact same
  | cons batch rest ih =>
      obtain ⟨_, errors, polls, rfl⟩ := same
      exact ih ⟨.applying, errors, polls, applyBatch_withPolling ..⟩

theorem withPolling (session : Session) (phase : Phase)
    (errors : List String) (polls : Nat) :
    SameContent (session.withPolling phase errors polls) session :=
  ⟨phase, errors, polls, rfl⟩

theorem withPolling_eq (same : SameContent left right) (phase : Phase)
    (errors : List String) (polls : Nat) :
    left.withPolling phase errors polls =
      right.withPolling phase errors polls := by
  obtain ⟨_, _, _, rfl⟩ := same
  rfl

theorem cursor_eq (same : SameContent left right) :
    left.cursor = right.cursor := by
  obtain ⟨_, _, _, rfl⟩ := same
  rfl

end SameContent

theorem step_sameContent (session : Session) (order : Step) :
    SameContent (session.step order).1
      (session.applyAll (session.appliedBy order)) := by
  cases order with
  | apply batch => exact .refl _
  | poll reply =>
      by_cases paused : session.phase = .paused
      · have nothing : session.appliedBy (.poll reply) = [] := by
          cases reply <;> simp [appliedBy, paused]
        rw [step_poll_of_paused paused, nothing]
        exact .refl _
      · cases reply with
        | ok batch =>
            simp only [step, poll_batch paused, appliedBy, if_neg paused]
            exact ⟨_, _, _, rfl⟩
        | error failure =>
            simp only [step, poll_failure paused]
            exact ⟨_, _, _, rfl⟩

theorem steps_sameContent (session : Session) (orders : List Step) :
    SameContent (session.steps orders).1
      (session.applyAll (session.applied orders)) := by
  induction orders generalizing session with
  | nil => exact .refl _
  | cons order rest ih =>
      have first := (session.step_sameContent order).applyAll
        ((session.step order).1.applied rest)
      rw [applied, applyAll_append]
      exact (ih (session.step order).1).trans first

end Session

end MeterWatch
