import MeterWatch.Proofs.Poll.Batching

/-!
# Counts tell the history

A session counts what it asks and the lines that batches bring.  The counts, the
length of the scrollback and the number of errors always agree with the replies
that were fetched and the batches that were applied since the session was new.
-/

namespace MeterWatch

open Emission

namespace Session

/-! ## Fetched replies -/

/-- The reply to what a step asks.  A paused session asks nothing. -/
def fetchedBy (session : Session) : Step → List Reply
  | .poll reply => if session.phase = .paused then [] else [reply]
  | .apply _ => []

def fetched (session : Session) : List Step → List Reply
  | [] => []
  | order :: rest =>
      session.fetchedBy order ++ (session.step order).1.fetched rest

/-- The replies that calls fetch, the last of a run being its failure. -/
def fetchedIn (session : Session) (calls : List Call) : List Reply :=
  session.fetched (calls.flatMap Call.steps)

/-! ## Counts -/

/-- The counts of a session that has asked with these cursors, fetched these
replies and applied these batches. -/
structure Tallies (session : Session) (asked : List (Option Cursor))
    (fetched : List Reply) (applied : List Batch) : Prop where
  polls : session.stats.polls = asked.length
  fetches : asked.length = fetched.length
  linesSeen : session.stats.linesSeen =
    (applied.flatMap Batch.entries).length
  linesMatched : session.stats.linesMatched =
    (applied.flatMap Batch.entries).countP fun entry =>
      Line.isRecognised entry.line
  scrollback : session.dashboard.scrollback.length =
    if session.logView then session.stats.linesMatched else 0
  errors : session.errors.length = fetched.countP fun reply => !reply.isOk

theorem length_kept (logView : Bool) (lines : List String) :
    (Line.kept logView lines).length =
      if logView then lines.countP Line.isRecognised else 0 := by
  cases logView
  · rfl
  · exact List.countP_eq_length_filter.symm

theorem tallies_new (zone : Zone) (cursor : Option Cursor) (logView : Bool) :
    Tallies (.new (.new zone) cursor logView) [] [] [] where
  polls := rfl
  fetches := rfl
  linesSeen := rfl
  linesMatched := rfl
  scrollback := by cases logView <;> rfl
  errors := rfl

namespace Tallies

variable {session : Session} {asked : List (Option Cursor)}
  {fetched : List Reply} {applied : List Batch}

theorem linesMatched_le (h : Tallies session asked fetched applied) :
    session.stats.linesMatched ≤ session.stats.linesSeen := by
  rw [h.linesMatched, h.linesSeen]
  exact List.countP_le_length

theorem applyBatch (h : Tallies session asked fetched applied)
    (batch : Batch) :
    Tallies (session.applyBatch batch) asked fetched (applied ++ [batch]) where
  polls := h.polls
  fetches := h.fetches
  linesSeen := by
    rw [List.flatMap_append, List.length_append, ← h.linesSeen]
    simp [Session.applyBatch]
  linesMatched := by
    rw [List.flatMap_append, List.countP_append, ← h.linesMatched]
    simp [Session.applyBatch, List.countP_map, Function.comp_def]
  scrollback := by
    have matched : (session.applyBatch batch).stats.linesMatched =
        session.stats.linesMatched + batch.lines.countP Line.isRecognised :=
      rfl
    have logView_eq : (session.applyBatch batch).logView = session.logView :=
      rfl
    rw [applyBatch_dashboard, logView_eq, matched]
    simp only [Dashboard.showing, List.length_append, List.length_reverse,
      length_kept, h.scrollback]
    split
    · exact Nat.add_comm ..
    · rfl
  errors := h.errors

theorem afterBatch (h : Tallies session asked fetched applied)
    (batch : Batch) :
    Tallies (session.afterBatch batch) (asked ++ [session.cursor])
      (fetched ++ [.ok batch]) (applied ++ [batch]) := by
  have counted := h.applyBatch batch
  refine ⟨?_, ?_, counted.linesSeen, counted.linesMatched, counted.scrollback,
    ?_⟩
  · rw [List.length_append, ← h.polls]
    rfl
  · rw [List.length_append, List.length_append, h.fetches]
    rfl
  · rw [List.countP_append, ← h.errors]
    rfl

theorem afterFailure (h : Tallies session asked fetched applied)
    (failure : FetchFailure) :
    Tallies (session.afterFailure failure) (asked ++ [session.cursor])
      (fetched ++ [.error failure]) applied := by
  refine ⟨?_, ?_, h.linesSeen, h.linesMatched, h.scrollback, ?_⟩
  · rw [List.length_append, ← h.polls]
    rfl
  · rw [List.length_append, List.length_append, h.fetches]
    rfl
  · rw [List.countP_append, ← h.errors]
    exact List.length_append

theorem step (h : Tallies session asked fetched applied) (order : Step) :
    Tallies (session.step order).1
      (asked ++ requests (session.step order).2)
      (fetched ++ session.fetchedBy order)
      (applied ++ session.appliedBy order) := by
  cases order with
  | apply batch =>
      simp only [Session.step, requests_batchEmissions, fetchedBy,
        List.append_nil]
      exact h.applyBatch batch
  | poll reply =>
      by_cases paused : session.phase = .paused
      · have nothing : session.appliedBy (.poll reply) = [] := by
          cases reply <;> simp [appliedBy, paused]
        rw [step_poll_of_paused paused, nothing, fetchedBy, if_pos paused]
        simpa [requests] using h
      · cases reply with
        | ok batch =>
            simp only [Session.step, poll_batch paused, requests_requested,
              requests_batchEmissions, fetchedBy, appliedBy, if_neg paused]
            exact h.afterBatch batch
        | error failure =>
            simp only [Session.step, poll_failure paused, requests_requested,
              requests_failureEmissions, fetchedBy, appliedBy, if_neg paused,
              List.append_nil]
            exact h.afterFailure failure

theorem steps (h : Tallies session asked fetched applied)
    (orders : List Step) :
    Tallies (session.steps orders).1
      (asked ++ requests (session.steps orders).2)
      (fetched ++ session.fetched orders)
      (applied ++ session.applied orders) := by
  induction orders generalizing session asked fetched applied with
  | nil => simpa [Session.steps, requests, Session.fetched, Session.applied]
  | cons order rest ih =>
      have later := ih (h.step order)
      simp only [List.append_assoc] at later
      simp only [Session.steps, inTurn_cons, requests_append, Session.fetched,
        Session.applied]
      exact later

end Tallies

/--
Whatever is called on a new session, it has asked as often as it has counted
polls, its lines are those of the batches it applied, its scrollback holds all
that matched or nothing, and every fetch that failed has left one message.
-/
theorem counts_tell_history (zone : Zone) (cursor : Option Cursor)
    (logView : Bool) (calls : List Call) :
    let session := Session.new (.new zone) cursor logView
    let outcome := session.calls calls
    Tallies outcome.1 (requests outcome.2) (session.fetchedIn calls)
        (session.appliedIn calls) ∧
      outcome.1.logView = logView ∧
      outcome.1.stats.linesMatched ≤ outcome.1.stats.linesSeen := by
  intro session outcome
  have final_eq : outcome.1 = _ := session.calls_session calls
  have asked_eq : requests outcome.2 = _ := session.requests_calls calls
  have counted := (tallies_new zone cursor logView).steps
    (calls.flatMap Call.steps)
  rw [asked_eq, final_eq]
  refine ⟨counted, ?_, counted.linesMatched_le⟩
  obtain ⟨_, _, _, same⟩ := session.steps_sameContent (calls.flatMap Call.steps)
  rw [same]
  exact (session.applyAll_display _).2

end Session

end MeterWatch
