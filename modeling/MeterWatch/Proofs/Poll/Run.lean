import MeterWatch.Proofs.Poll.Calls

/-!
# Whole runs

A run asks the server once for every reply up to the first failure.  It applies
the batches before that failure, waits what each of them asks for, and knows
nothing of the replies behind it.
-/

namespace MeterWatch

open Emission

/-! ## Replies up to the first failure -/

def successCount (replies : List Reply) : Nat :=
  replies.findIdx fun reply => !reply.isOk

def leadingBatches (replies : List Reply) : List Batch :=
  (replies.take (successCount replies)).filterMap Except.toOption

/-- The first failure, which is one without a reason if no reply fails. -/
def endingFailure (replies : List Reply) : FetchFailure :=
  match replies[successCount replies]? with
  | some (.error failure) => failure
  | _ => .unknown

/-- What a server says that has no more than these replies. -/
def answers (replies : List Reply) : List Reply :=
  replies ++ [.error .unknown]

section Replies

variable (batch : Batch) (failure : FetchFailure) (rest : List Reply)

@[simp] theorem successCount_error :
    successCount (.error failure :: rest) = 0 := by
  simp [successCount, List.findIdx_cons, Except.isOk, Except.toBool]

@[simp] theorem successCount_ok :
    successCount (.ok batch :: rest) = successCount rest + 1 := by
  simp [successCount, List.findIdx_cons, Except.isOk, Except.toBool]

@[simp] theorem leadingBatches_error :
    leadingBatches (.error failure :: rest) = [] := by
  simp [leadingBatches]

@[simp] theorem leadingBatches_ok :
    leadingBatches (.ok batch :: rest) = batch :: leadingBatches rest := by
  simp [leadingBatches, Except.toOption]

@[simp] theorem endingFailure_error :
    endingFailure (.error failure :: rest) = failure := by
  simp [endingFailure]

@[simp] theorem endingFailure_ok :
    endingFailure (.ok batch :: rest) = endingFailure rest := by
  simp [endingFailure]

end Replies

theorem take_answers (replies : List Reply) :
    (answers replies).take (successCount replies + 1) =
      (leadingBatches replies).map Except.ok ++
        [Except.error (endingFailure replies)] := by
  induction replies with
  | nil => rfl
  | cons reply rest ih =>
      cases reply <;> simp_all [answers]

namespace Session

/-! ## Polling through replies -/

theorem afterBatch_active (session : Session) (batch : Batch) :
    (session.afterBatch batch).phase ≠ .paused := by
  simp

theorem afterBatch_applyAll (session : Session) (batch : Batch)
    (batches : List Batch) :
    SameContent ((session.afterBatch batch).applyAll batches)
      (session.applyAll (batch :: batches)) :=
  (SameContent.withPolling ..).applyAll batches

theorem pollThrough_session {session : Session}
    (active : session.phase ≠ .paused) (replies : List Reply) :
    (session.pollThrough replies).1 =
      (session.applyAll (leadingBatches replies)).withPolling .paused
        (session.errors ++ [pauseMessage (endingFailure replies).cause?])
        (session.stats.polls + (successCount replies + 1)) := by
  induction replies generalizing session with
  | nil => rw [pollThrough_nil active]; rfl
  | cons reply rest ih =>
      cases reply with
      | error failure =>
          rw [pollThrough_failure active, leadingBatches_error,
            endingFailure_error, successCount_error]
          rfl
      | ok batch =>
          have later := ih (session.afterBatch_active batch)
          rw [(session.afterBatch_applyAll batch _).withPolling_eq] at later
          rw [pollThrough_batch active, leadingBatches_ok, endingFailure_ok,
            successCount_ok, Nat.add_comm (successCount rest + 1) 1,
            ← Nat.add_assoc]
          exact later

theorem requests_pollThrough {session : Session}
    (active : session.phase ≠ .paused) (replies : List Reply) :
    requests (session.pollThrough replies).2 =
      (List.range (successCount replies + 1)).map fun count =>
        (session.applyAll ((leadingBatches replies).take count)).cursor := by
  induction replies generalizing session with
  | nil => rw [pollThrough_nil active]; rfl
  | cons reply rest ih =>
      cases reply with
      | error failure =>
          rw [pollThrough_failure active, successCount_error,
            leadingBatches_error]
          rfl
      | ok batch =>
          have later := ih (session.afterBatch_active batch)
          simp only [(session.afterBatch_applyAll batch _).cursor_eq] at later
          rw [pollThrough_batch active, leadingBatches_ok, successCount_ok,
            List.range_succ_eq_map, List.map_cons, List.map_map,
            requests_requested, requests_append, requests_batchEmissions,
            requests_waited, later]
          rfl

theorem waits_pollThrough {session : Session}
    (active : session.phase ≠ .paused) (replies : List Reply) :
    waits (session.pollThrough replies).2 =
      (leadingBatches replies).map Batch.delay := by
  induction replies generalizing session with
  | nil => rw [pollThrough_nil active]; rfl
  | cons reply rest ih =>
      cases reply with
      | error failure =>
          rw [pollThrough_failure active, leadingBatches_error]
          rfl
      | ok batch =>
          rw [pollThrough_batch active, leadingBatches_ok, List.map_cons,
            waits_requested, waits_append, waits_batchEmissions, waits_waited,
            ih (session.afterBatch_active batch)]
          rfl

/-- Replies behind the first failure are never asked for. -/
theorem pollThrough_congr {session : Session}
    (active : session.phase ≠ .paused) {replies others : List Reply}
    (same : others.take (successCount replies + 1) =
      replies.take (successCount replies + 1)) :
    session.pollThrough others = session.pollThrough replies := by
  induction replies generalizing session others with
  | nil =>
      have none_left : others = [] := by simpa using same
      rw [none_left]
  | cons reply rest ih =>
      cases others with
      | nil => simp at same
      | cons other others =>
          simp only [List.take_succ_cons, List.cons.injEq] at same
          obtain ⟨rfl, same⟩ := same
          cases other with
          | error failure =>
              rw [pollThrough_failure active, pollThrough_failure active]
          | ok batch =>
              rw [successCount_ok] at same
              rw [pollThrough_batch active, pollThrough_batch active,
                ih (session.afterBatch_active batch) same]

/-! ## Runs -/

theorem runThrough_eq (session : Session) (replies : List Reply) :
    session.runThrough replies =
      ((session.pollThrough replies).1,
        .logged session.startRecord :: (session.pollThrough replies).2 ++
          [.logged (session.pollThrough replies).1.stopRecord]) := rfl

/--
With `position` the place of the first failure, a run asks `position` times,
each time with the cursor that the batches so far have led to, waits what they
ask for, and ends paused with one more error.  The replies behind `position`
change nothing.
-/
theorem run_until_first_failure (session : Session) (replies : List Reply)
    (active : session.phase ≠ .paused) :
    let position := successCount replies + 1
    let batches := leadingBatches replies
    let failure := endingFailure replies
    let outcome := session.runThrough replies
    (answers replies).take position =
        batches.map Except.ok ++ [Except.error failure] ∧
      requests outcome.2 = (List.range position).map (fun count =>
        (session.applyAll (batches.take count)).cursor) ∧
      waits outcome.2 = batches.map Batch.delay ∧
      outcome.1 = (session.applyAll batches).withPolling .paused
        (session.errors ++ [pauseMessage failure.cause?])
        (session.stats.polls + position) ∧
      ∀ others, others.take position = replies.take position →
        session.runThrough others = outcome := by
  intro position batches failure outcome
  refine ⟨take_answers replies, ?_, ?_, pollThrough_session active replies, ?_⟩
  · rw [← requests_pollThrough active replies]
    exact requests_eq_of_shown (shown_runThrough session replies)
  · rw [← waits_pollThrough active replies]
    simp only [outcome, runThrough_eq, waits_logged, waits_append]
    exact List.append_nil _
  · intro others same
    simp only [outcome, runThrough_eq, pollThrough_congr active same]

theorem run_until_third_reply :
    let session := Session.new (.new .utc) none true
    let early : Cursor := ⟨.finite false 7 (by decide)⟩
    let late : Cursor := ⟨.finite false 9 (by decide)⟩
    let replies : List Reply := [.ok ⟨[], .ofSeconds 30, some late⟩,
      .ok ⟨[], .ofSeconds 60, some early⟩, .error (.status 503),
      .ok ⟨[], .ofSeconds 90, none⟩]
    let outcome := session.runThrough replies
    session.phase ≠ .paused ∧
      requests outcome.2 = [none, some late, some late] ∧
      waits outcome.2 = [.ofSeconds 30, .ofSeconds 60] ∧
      outcome.1.stats.polls = 3 ∧ outcome.1.errors.length = 1 ∧
      session.runThrough (replies.take 3) = outcome := by
  intro session early late replies outcome
  obtain ⟨-, asked, waited, final, unread⟩ :=
    run_until_first_failure session replies (by decide)
  refine ⟨by decide, asked.trans (by decide), waited.trans (by decide),
    ?_, ?_, unread (replies.take 3) rfl⟩
  · exact congrArg (fun session => session.stats.polls) final
  · exact congrArg (fun session => session.errors.length) final

/-! ## Servers that read the cursor -/

/-- What servers say that are asked in turn, each with its own cursor. -/
def repliesTo (sources : List (Option Cursor → Reply))
    (asked : List (Option Cursor)) : List Reply :=
  List.zipWith (fun fetch cursor => fetch cursor) sources asked

theorem pollThrough_repliesTo (session : Session)
    (sources : List (Option Cursor → Reply)) :
    session.pollThrough (repliesTo sources
        (requests (session.pollAll (fun _ => .unknown) sources).2)) =
      session.pollAll (fun _ => .unknown) sources := by
  induction sources generalizing session with
  | nil => rfl
  | cons fetch rest ih =>
      by_cases paused : session.phase = .paused
      · rw [pollThrough_paused paused, pollAll, poll_of_paused paused]
      · cases answer : fetch session.cursor with
        | error failure =>
            -- Nothing else is asked for, so the other servers say nothing.
            have asked : repliesTo (fetch :: rest)
                [session.cursor] = [.error failure] := by
              simp [repliesTo, answer]
            rw [pollAll_failure paused _ answer, requests_requested,
              requests_failureEmissions, asked, pollThrough_failure paused]
        | ok batch =>
            have asked (later : List (Option Cursor)) :
                repliesTo (fetch :: rest) (session.cursor :: later) =
                  .ok batch :: repliesTo rest later := by
              simp [repliesTo, answer]
            rw [requests_pollAll_batch paused _ answer, asked,
              pollThrough_batch paused, ih (session.afterBatch batch),
              pollAll_batch paused _ answer]

/-- The cursors that a run lists as requested are the ones that it sends: the
run is the one through what the servers say to these. -/
theorem run_of_sources (session : Session)
    (sources : List (Option Cursor → Reply)) :
    let outcome := session.run (fun _ => .unknown) sources
    outcome = session.runThrough (repliesTo sources (requests outcome.2)) := by
  intro outcome
  have polled := session.pollThrough_repliesTo sources
  rw [← requests_run] at polled
  rw [runThrough_eq, polled]
  rfl

end Session

end MeterWatch
