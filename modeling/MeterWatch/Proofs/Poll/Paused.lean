import MeterWatch.Proofs.Failure
import MeterWatch.Proofs.Poll.Calls

/-!
# Paused sessions

A failed poll changes nothing but the phase, the errors and the number of
polls.  After it the session neither asks nor changes however often it is
polled or run; only a batch that is applied from elsewhere sets it going again.
-/

namespace MeterWatch

open Emission

namespace Session

/-! ## Calls on a paused session -/

theorem shown_call_of_paused {session : Session}
    (paused : session.phase = .paused) {call : Call}
    (polls : call.isApply = false) :
    shown (session.call call) = (session, []) := by
  cases call with
  | poll reply =>
      rw [Session.call, step_poll_of_paused paused]
      rfl
  | run replies =>
      exact (shown_runThrough session replies).trans
        (congrArg shown (pollThrough_paused paused replies))
  | apply batch => cases polls

theorem shown_calls_of_paused {session : Session}
    (paused : session.phase = .paused) {calls : List Call}
    (polls : ∀ call ∈ calls, call.isApply = false) :
    shown (session.calls calls) = (session, []) := by
  -- The session is the same at every call, so it need not be generalised.
  induction calls with
  | nil => rfl
  | cons call rest ih =>
      obtain ⟨call_polls, rest_polls⟩ := List.forall_mem_cons.mp polls
      have first := shown_call_of_paused paused call_polls
      have later := ih rest_polls
      simp only [shown, Prod.mk.injEq, Session.calls, inTurn_cons,
        List.filter_append] at first later ⊢
      rw [first.1, first.2]
      exact later

def IsUntouched (session : Session) (outcome : Session × List Emission) :
    Prop :=
  outcome.1 = session ∧ requests outcome.2 = [] ∧ events outcome.2 = []

theorem calls_untouched {session : Session} (paused : session.phase = .paused)
    {calls : List Call} (polls : ∀ call ∈ calls, call.isApply = false) :
    session.IsUntouched (session.calls calls) := by
  have nothing : shown (session.calls calls) = shown (session, []) :=
    shown_calls_of_paused paused polls
  exact ⟨(Prod.mk.inj nothing).1, requests_eq_of_shown nothing,
    events_eq_of_shown nothing⟩

/-! ## Failed polls -/

/--
A failed poll is announced once, with the message that is added to the errors,
and is the last that polling does.
-/
theorem failed_poll_is_final (session : Session) (failure : FetchFailure)
    (fetch : Option Cursor → Reply) (active : session.phase ≠ .paused)
    (answer : fetch session.cursor = .error failure) :
    let result := session.poll fetch
    ∃ message,
      result.delay = none ∧
      result.session = { session with
        phase := .paused
        errors := session.errors ++ [message]
        stats := { session.stats with polls := session.stats.polls + 1 } } ∧
      requests result.emissions = [session.cursor] ∧
      events result.emissions = [.failed message] ∧
      (message = silentPauseMessage ↔
        failure = .unknown ∨ failure = .network "") ∧
      (¬ (failure = .unknown ∨ failure = .network "") → ∃ cause count,
        IsWithoutPeriods cause failure.message count ∧
          message = "Request failed: " ++ cause ++
            ".  Updates paused, reload to resume.") ∧
      ∀ later : List Call, (∀ call ∈ later, call.isApply = false) →
        result.session.IsUntouched (result.session.calls later) := by
  intro result
  have result_eq : result = ⟨session.afterFailure failure,
      .requested session.cursor :: failureEmissions failure, none⟩ := by
    rw [← poll_failure active failure]
    simp only [result, poll, answer]
  rw [result_eq]
  exact ⟨_, rfl, rfl, by simp, by simp, pauseMessage_eq_silent_iff failure,
    pauseMessage_of_not_silent,
    fun later polls => calls_untouched (afterFailure_phase ..) polls⟩

theorem failed_poll_drops_periods :
    let session := Session.new (.new .utc) (some ⟨.zero false⟩) true
    let result := session.poll fun _ => .error (.network "no route...")
    let message :=
      "Request failed: no route.  Updates paused, reload to resume."
    result.session.errors = [message] ∧
      events result.emissions = [.failed message] ∧
      result.session.IsUntouched (result.session.calls
        [.poll (.ok ⟨[], .ofSeconds 30, none⟩), .run []]) := by
  intro session result message
  obtain ⟨_, -, -, -, -, -, -, final⟩ := failed_poll_is_final session
    (.network "no route...") (fun _ => .error (.network "no route..."))
    (by decide) rfl
  exact ⟨by decide, by decide, final _ (by decide)⟩

/-! ## Batches from elsewhere -/

/-- Through all of some calls a session is paused, asks nothing and has no next
poll. -/
structure StaysPaused (session : Session) (calls : List Call) : Prop where
  phase : ∀ before, before <+: calls →
    (session.calls before).1.phase = .paused
  requests : Emission.requests (session.calls calls).2 = []
  delay : ∀ before reply, before ++ [.poll reply] <+: calls →
    ((session.calls before).1.poll fun _ => reply).delay = none

theorem calls_append_apply (session : Session) (calls : List Call)
    (batch : Batch) :
    (session.calls (calls ++ [.apply batch])).1.phase = .applying := by
  rw [Session.calls, inTurn_append]
  rfl

/-- A paused session stays paused exactly if no batch is applied to it. -/
theorem staysPaused_iff (session : Session) (calls : List Call)
    (paused : session.phase = .paused) :
    session.StaysPaused calls ↔ ∀ call ∈ calls, call.isApply = false := by
  constructor
  · intro stays call member
    cases call with
    | poll reply => rfl
    | run replies => rfl
    | apply batch =>
        obtain ⟨before, after, rfl⟩ := List.append_of_mem member
        have still := stays.phase (before ++ [.apply batch]) ⟨after, by simp⟩
        rw [calls_append_apply] at still
        cases still
  · intro polls
    have untouched (before : List Call) (h : before <+: calls) :
        session.IsUntouched (session.calls before) :=
      calls_untouched paused fun call member => polls call (h.subset member)
    refine ⟨fun before h => ?_, (untouched calls (List.prefix_refl _)).2.1,
      fun before reply h => ?_⟩
    · rw [(untouched before h).1]
      exact paused
    · have earlier := (List.prefix_append before [.poll reply]).trans h
      rw [(untouched before earlier).1, poll_of_paused paused]

theorem staysPaused_through_poll_and_run :
    let session := Session.new (.new .utc) none true
    let paused := (session.poll fun _ => .error (.status 503)).session
    paused.phase = .paused ∧ paused.StaysPaused
      [.poll (.ok ⟨[], .ofSeconds 1, none⟩), .run []] := by
  intro session paused
  exact ⟨by decide, (staysPaused_iff paused _ (by decide)).mpr (by decide)⟩

/-- One batch applied to a paused session, and polling goes on. -/
theorem apply_ends_pause :
    let session := Session.new (.new .utc) none true
    let paused := (session.poll fun _ => .error (.status 503)).session
    let batch : Batch := ⟨[], .ofSeconds 1, none⟩
    let applied := (paused.calls [.apply batch]).1
    let result := applied.poll fun _ => .ok batch
    paused.phase = .paused ∧ applied.phase = .applying ∧
      requests result.emissions = [none] ∧
      result.delay = some (.ofSeconds 1) ∧
      ¬ paused.StaysPaused [.apply batch, .poll (.ok batch)] := by
  intro session paused batch applied result
  refine ⟨by decide, by decide, by decide, by decide, fun stays => ?_⟩
  have still := stays.phase [.apply batch] (by simp)
  cases still

end Session

end MeterWatch
