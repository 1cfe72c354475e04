import MeterWatch.Proofs.Poll.Batching
import MeterWatch.Proofs.Poll.Run

/-!
# Settings of the display

Two sessions that start alike but for the zone of the clock and the choice of
keeping lines go through the same calls.  They ask, wait, count and fail alike,
and show the same readings.  Only the time of day of a demand may have another
text, and only a session that keeps lines has a scrollback that grows.
-/

namespace MeterWatch

open Emission

/-! ## Readings in two zones -/

def Reading.isDemand : Reading → Bool
  | demand .. => true
  | _ => false

/-- Two lists of updates by the same readings.  At most the times of day that
come from demands have different texts. -/
inductive ShownAlike : List Reading → List Update → List Update → Prop
  | nil : ShownAlike [] [] []
  | demand {readings : List Reading} {left right : List Update}
      (watts : Binary64) (time : Instant) (text text' : String)
      (rest : ShownAlike readings left right) :
      ShownAlike (.demand watts time :: readings)
        (⟨.watts, demandText watts⟩ :: ⟨.time, text⟩ :: left)
        (⟨.watts, demandText watts⟩ :: ⟨.time, text'⟩ :: right)
  | other {readings : List Reading} {left right : List Update}
      (reading : Reading) (updates : List Update)
      (other : reading.isDemand = false)
      (rest : ShownAlike readings left right) :
      ShownAlike (reading :: readings) (updates ++ left) (updates ++ right)

theorem shownAlike_updates (zone zone' : Zone) (readings : List Reading) :
    ShownAlike readings (readings.flatMap (Reading.updates zone))
      (readings.flatMap (Reading.updates zone')) := by
  induction readings with
  | nil => exact .nil
  | cons reading rest ih =>
      rw [List.flatMap_cons, List.flatMap_cons]
      cases reading with
      | demand watts time => exact .demand watts time _ _ ih
      | power watts padding => exact .other _ _ rfl ih
      | temperature celsius => exact .other _ _ rfl ih
      | humidity percent => exact .other _ _ rfl ih
      | clock text => exact .other _ _ rfl ih

namespace Readouts

/-- At most the time readouts differ. -/
def SameButTime (left right : Readouts) : Prop :=
  ∀ quantity, quantity ≠ .time → left.get? quantity = right.get? quantity

variable {left right : Readouts}

theorem SameButTime.write (same : left.SameButTime right) (update : Update) :
    (left.write update).SameButTime (right.write update) := by
  intro quantity other
  rw [get?_write, get?_write, same quantity other]

theorem SameButTime.writeAll (same : left.SameButTime right)
    (updates : List Update) :
    (left.writeAll updates).SameButTime (right.writeAll updates) := by
  induction updates generalizing left right with
  | nil => exact same
  | cons update rest ih => exact ih (same.write update)

theorem SameButTime.write_time (same : left.SameButTime right)
    (text text' : String) :
    (left.write ⟨.time, text⟩).SameButTime (right.write ⟨.time, text'⟩) := by
  intro quantity other
  rw [get?_write, get?_write, if_neg other.symm, if_neg other.symm,
    same quantity other]

theorem SameButTime.shown (same : left.SameButTime right)
    {readings : List Reading} {updates updates' : List Update}
    (alike : ShownAlike readings updates updates') :
    (left.writeAll updates).SameButTime (right.writeAll updates') := by
  induction alike generalizing left right with
  | nil => exact same
  | demand watts time text text' _ ih =>
      exact ih ((same.write ⟨.watts, demandText watts⟩).write_time text text')
  | other reading updates _ _ ih =>
      rw [writeAll_append, writeAll_append]
      exact ih (same.writeAll updates)

end Readouts

/-! ## What a call shows -/

namespace Emission

def updates (emissions : List Emission) : List Update :=
  (events emissions).filterMap Event.updated?

def scrolled (emissions : List Emission) : List String :=
  (events emissions).filterMap Event.scrolled?

def failures (emissions : List Emission) : List String :=
  (events emissions).filterMap Event.failed?

end Emission

namespace Session

/-- What the lines of the batches say that a call applies. -/
def readingsOf (session : Session) (call : Call) : List Reading :=
  ((session.appliedIn [call]).flatMap Batch.lines).flatMap Line.decode

/-- What comes of a call. -/
structure Answer where
  session : Session
  emissions : List Emission
  /-- Only a poll returns one. -/
  delay : Option Duration
  readings : List Reading

def answer (session : Session) (call : Call) : Answer where
  session := (session.call call).1
  emissions := (session.call call).2
  delay := match call with
    | .poll reply => (session.poll fun _ => reply).delay
    | _ => none
  readings := session.readingsOf call

def history (session : Session) : List Call → List Answer
  | [] => []
  | call :: rest => session.answer call :: (session.call call).1.history rest

theorem calls_single (session : Session) (call : Call) :
    session.calls [call] = session.call call := by
  simp [calls]

theorem filterMap_displayed {α : Type} (show? : Event → Option α)
    (silent : ∀ message, show? (.failed message) = none)
    (events : List Event) :
    (events.filter Event.isDisplayed).filterMap show? =
      events.filterMap show? := by
  rw [List.filterMap_filter]
  congr
  funext event
  cases event <;> simp [Event.isDisplayed, silent]

theorem updates_call (session : Session) (call : Call) :
    updates (session.call call).2 =
      (session.readingsOf call).flatMap
        (Reading.updates session.dashboard.zone) := by
  rw [← calls_single, updates, ← filterMap_displayed _ (fun _ => rfl),
    displayed_calls, List.filterMap_flatMap]
  simp only [updated_lineEvents]
  exact List.flatMap_assoc.symm

theorem scrolled_call (session : Session) (call : Call) :
    scrolled (session.call call).2 =
      Line.kept session.logView
        ((session.appliedIn [call]).flatMap Batch.lines) := by
  rw [← calls_single, scrolled, ← filterMap_displayed _ (fun _ => rfl),
    displayed_calls, scrolled_linesEvents]

/-! ## Sessions that poll alike -/

/-- At most the settings of the display and what depends on them differ. -/
structure PollsAlike (left right : Session) : Prop where
  phase : left.phase = right.phase
  cursor : left.cursor = right.cursor
  stats : left.stats = right.stats
  errors : left.errors = right.errors
  readouts : left.dashboard.readouts.SameButTime right.dashboard.readouts

namespace PollsAlike

variable {left right : Session}

theorem applyBatch (alike : PollsAlike left right) (batch : Batch) :
    PollsAlike (left.applyBatch batch) (right.applyBatch batch) where
  phase := rfl
  cursor := congrArg (nextCursor · batch.cursor) alike.cursor
  stats := by simp only [Session.applyBatch, alike.stats]
  errors := alike.errors
  readouts := by
    have updates_eq (zone : Zone) : batch.updates zone =
        (batch.lines.flatMap Line.decode).flatMap (Reading.updates zone) :=
      List.flatMap_assoc.symm
    rw [applyBatch_dashboard, applyBatch_dashboard, updates_eq, updates_eq]
    exact alike.readouts.shown (shownAlike_updates ..)

theorem withPolling (alike : PollsAlike left right) (phase : Phase)
    (errors : List String) (polls : Nat) :
    PollsAlike (left.withPolling phase errors polls)
      (right.withPolling phase errors polls) where
  phase := rfl
  cursor := alike.cursor
  stats := by simp only [Session.withPolling, alike.stats]
  errors := rfl
  readouts := alike.readouts

theorem afterBatch (alike : PollsAlike left right) (batch : Batch) :
    PollsAlike (left.afterBatch batch) (right.afterBatch batch) := by
  rw [Session.afterBatch, Session.afterBatch, alike.errors, alike.stats]
  exact (alike.applyBatch batch).withPolling ..

theorem afterFailure (alike : PollsAlike left right)
    (failure : FetchFailure) :
    PollsAlike (left.afterFailure failure) (right.afterFailure failure) := by
  rw [Session.afterFailure, Session.afterFailure, alike.errors, alike.stats]
  exact alike.withPolling ..

end PollsAlike

/-! ## Steps and calls that go alike -/

theorem failures_batchEmissions (session : Session) (batch : Batch) :
    failures (session.batchEmissions batch) = [] := by
  rw [failures, events_batchEmissions, ← filter_batchEvents]
  refine List.filterMap_eq_nil_iff.mpr fun event member => ?_
  have displayed := (List.mem_filter.mp member).2
  cases event with
  | failed message => cases displayed
  | updated update => rfl
  | scrolled line => rfl

/-- Two outcomes with the same polling, whatever the displays show. -/
structure OutcomesAlike (left right : Session × List Emission) : Prop where
  session : PollsAlike left.1 right.1
  requests : requests left.2 = requests right.2
  failures : failures left.2 = failures right.2

section Alike

variable {left right : Session} (alike : PollsAlike left right)
include alike

theorem step_alike (order : Step) :
    OutcomesAlike (left.step order) (right.step order) ∧
      left.appliedBy order = right.appliedBy order := by
  cases order with
  | apply batch =>
      refine ⟨⟨alike.applyBatch batch, ?_, ?_⟩, rfl⟩
      · simp [step]
      · simp [step, failures_batchEmissions]
  | poll reply =>
      by_cases paused : left.phase = .paused
      · have paused' : right.phase = .paused := alike.phase ▸ paused
        rw [step_poll_of_paused paused, step_poll_of_paused paused']
        refine ⟨⟨alike, rfl, rfl⟩, ?_⟩
        cases reply <;> simp [appliedBy, paused, paused']
      · have active' : right.phase ≠ .paused := alike.phase ▸ paused
        cases reply with
        | ok batch =>
            simp only [step, poll_batch paused, poll_batch active', appliedBy,
              if_neg paused, if_neg active']
            refine ⟨⟨alike.afterBatch batch, ?_, ?_⟩, trivial⟩
            · simp [alike.cursor]
            · exact (left.failures_batchEmissions batch).trans
                (right.failures_batchEmissions batch).symm
        | error failure =>
            simp only [step, poll_failure paused, poll_failure active',
              appliedBy]
            exact ⟨⟨alike.afterFailure failure, by simp [alike.cursor], rfl⟩,
              trivial⟩

theorem steps_alike (orders : List Step) :
    OutcomesAlike (left.steps orders) (right.steps orders) ∧
      left.applied orders = right.applied orders := by
  induction orders generalizing left right with
  | nil => exact ⟨⟨alike, rfl, rfl⟩, rfl⟩
  | cons order rest ih =>
      obtain ⟨first, first_applied⟩ := step_alike alike order
      obtain ⟨later, later_applied⟩ := ih first.session
      simp only [steps, inTurn_cons, applied] at later ⊢
      refine ⟨⟨later.session, ?_, ?_⟩, ?_⟩
      · rw [requests_append, requests_append, first.requests, later.requests]
      · have first_failures := first.failures
        have later_failures := later.failures
        simp only [failures, events_append, List.filterMap_append]
          at first_failures later_failures ⊢
        rw [first_failures, later_failures]
      · rw [first_applied, later_applied]

theorem call_alike (call : Call) :
    OutcomesAlike (left.call call) (right.call call) := by
  obtain ⟨same, -⟩ := steps_alike alike call.steps
  have hleft := left.shown_call call
  have hright := right.shown_call call
  refine ⟨?_, ?_, ?_⟩
  · rw [(Prod.mk.inj hleft).1, (Prod.mk.inj hright).1]
    exact same.session
  · rw [requests_eq_of_shown hleft, requests_eq_of_shown hright]
    exact same.requests
  · rw [failures, failures, events_eq_of_shown hleft,
      events_eq_of_shown hright]
    exact same.failures

theorem readingsOf_alike (call : Call) :
    left.readingsOf call = right.readingsOf call := by
  rw [readingsOf, readingsOf, appliedIn, appliedIn, (steps_alike alike _).2]

theorem delay_alike (reply : Reply) :
    (left.poll fun _ => reply).delay = (right.poll fun _ => reply).delay := by
  by_cases paused : left.phase = .paused
  · rw [poll_of_paused paused, poll_of_paused (alike.phase ▸ paused)]
  · have active' : right.phase ≠ .paused := alike.phase ▸ paused
    cases reply with
    | ok batch => rw [poll_batch paused, poll_batch active']
    | error failure => rw [poll_failure paused, poll_failure active']

theorem waits_alike (call : Call) :
    waits (left.call call).2 = waits (right.call call).2 := by
  cases call with
  | apply batch => simp [Session.call, step]
  | poll reply =>
      by_cases paused : left.phase = .paused
      · simp only [Session.call, step_poll_of_paused paused,
          step_poll_of_paused (alike.phase ▸ paused)]
      · have active' : right.phase ≠ .paused := alike.phase ▸ paused
        cases reply <;>
          simp [Session.call, step, poll_batch paused, poll_batch active',
            poll_failure paused, poll_failure active', failureEmissions]
  | run replies =>
      simp only [Session.call, runThrough_eq, waits_append, waits_logged]
      by_cases paused : left.phase = .paused
      · rw [pollThrough_paused paused,
          pollThrough_paused (alike.phase ▸ paused)]
      · have active' : right.phase ≠ .paused := alike.phase ▸ paused
        rw [waits_pollThrough paused, waits_pollThrough active']

end Alike

/-! ## Histories that go alike -/

/-- Two answers to a call with the same polling and the same readings, which
only the displays show in their own ways. -/
structure AnswersAlike (left right : Answer) : Prop where
  session : PollsAlike left.session right.session
  delay : left.delay = right.delay
  requests : requests left.emissions = requests right.emissions
  waits : waits left.emissions = waits right.emissions
  failures : failures left.emissions = failures right.emissions
  readings : left.readings = right.readings
  updates : ShownAlike left.readings (updates left.emissions)
    (updates right.emissions)

theorem answer_alike {left right : Session} (alike : PollsAlike left right)
    (call : Call) : AnswersAlike (left.answer call) (right.answer call) := by
  have outcome := call_alike alike call
  have readings_eq := readingsOf_alike alike call
  refine ⟨outcome.session, ?_, outcome.requests, waits_alike alike call,
    outcome.failures, readings_eq, ?_⟩
  · cases call with
    | poll reply => exact delay_alike alike reply
    | run replies => rfl
    | apply batch => rfl
  · simp only [answer, updates_call, ← readings_eq]
    exact shownAlike_updates ..

theorem history_alike {left right : Session} (alike : PollsAlike left right)
    (calls : List Call) :
    List.Forall₂ AnswersAlike (left.history calls) (right.history calls) := by
  induction calls generalizing left right with
  | nil => exact .nil
  | cons call rest ih =>
      exact .cons (answer_alike alike call) (ih (call_alike alike call).session)

/-! ## Scrollbacks that stay -/

theorem call_scrollback (session : Session) (call : Call) :
    (session.call call).1.dashboard.scrollback =
        (scrolled (session.call call).2).reverse ++
          session.dashboard.scrollback ∧
      (session.call call).1.logView = session.logView := by
  rw [scrolled_call, ← calls_single]
  obtain ⟨_, _, _, same⟩ := session.calls_sameContent [call]
  rw [same]
  refine ⟨?_, (session.applyAll_display _).2⟩
  change (session.applyAll _).dashboard.scrollback = _
  rw [applyAll_dashboard, foldl_showLine]
  rfl

/-- No call has added to the scrollback or announced a line for it. -/
def KeepsScrollback (session : Session) (answer : Answer) : Prop :=
  answer.session.dashboard.scrollback = session.dashboard.scrollback ∧
    scrolled answer.emissions = []

theorem history_keepsScrollback {session : Session}
    (off : session.logView = false) (calls : List Call) :
    ∀ answer ∈ session.history calls, session.KeepsScrollback answer := by
  induction calls generalizing session with
  | nil => simp [history]
  | cons call rest ih =>
      obtain ⟨scrollback, logView⟩ := session.call_scrollback call
      have silent : scrolled (session.call call).2 = [] := by
        rw [scrolled_call, off]
        rfl
      rw [silent] at scrollback
      refine List.forall_mem_cons.mpr ⟨⟨scrollback, silent⟩, ?_⟩
      intro answer member
      obtain ⟨kept, unheard⟩ := ih (logView.trans off) answer member
      exact ⟨kept.trans scrollback, unheard⟩

/-- The same session with other settings of its display. -/
def withSettings (session : Session) (zone : Zone) (logView : Bool) :
    Session :=
  { session with
    dashboard := { session.dashboard with zone := zone }
    logView := logView }

/--
Settings of the display never reach the polling.  After every call both
sessions have the same phase, cursor, counts and errors and the same readouts
besides the time.  Each call asks, waits, returns and fails alike, and shows the
same readings.
-/
theorem settings_reach_display_only (session : Session) (zone : Zone)
    (logView : Bool) (calls : List Call) :
    let other := session.withSettings zone logView
    List.Forall₂ AnswersAlike (session.history calls) (other.history calls) ∧
      (session.logView = false →
        ∀ answer ∈ session.history calls, session.KeepsScrollback answer) ∧
      (logView = false →
        ∀ answer ∈ other.history calls, other.KeepsScrollback answer) := by
  intro other
  have alike : PollsAlike session other :=
    ⟨rfl, rfl, rfl, rfl, fun _ _ => rfl⟩
  exact ⟨history_alike alike calls,
    fun off => history_keepsScrollback off calls,
    fun off => history_keepsScrollback off calls⟩

end Session

end MeterWatch
