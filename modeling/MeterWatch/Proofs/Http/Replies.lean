import MeterWatch.Http.LogServer
import MeterWatch.Proofs.Chart.Rounds
import MeterWatch.Proofs.Poll.Reissued

/-!
# Replies of a server

Whether a poll fails is decided by the status of the reply, and if that is no
error by its body.  Charts are stricter about the status: all but success is a
failure.
-/

namespace MeterWatch

/-! ## Replies that fail -/

namespace LogServer

/-- An error status, or a body that holds no batch. -/
def IsFailing (reply : Nat × String) : Prop :=
  (400 ≤ reply.1 ∧ reply.1 < 600) ∨
    (Batch.ofBody (withoutMark reply.2)).isOk = false

instance (reply : Nat × String) : Decidable (IsFailing reply) :=
  inferInstanceAs (Decidable (_ ∨ _))

/-- The first reply that fails, after so many that do not. -/
structure IsFirstFailure (replies : List (Nat × String)) (count : Nat) :
    Prop where
  fails : ∃ reply, replies[count]? = some reply ∧ IsFailing reply
  before : ∀ reply ∈ replies.take count, ¬ IsFailing reply

/-- The cursor that is held after these replies. -/
def heldAfter (initial : Option Cursor) (replies : List (Nat × String)) :
    Option Cursor :=
  replies.foldl
    (fun held reply =>
      match Batch.ofBody (withoutMark reply.2) with
      | .ok batch => Session.nextCursor held batch.cursor
      | .error _ => held)
    initial

variable {url : Url} {reply : Nat × String} {rest : List (Nat × String)}
  {count : Nat}

theorem isFirstFailure_zero (failing : IsFailing reply) :
    IsFirstFailure (reply :: rest) 0 :=
  ⟨⟨reply, rfl, failing⟩, by simp⟩

theorem IsFirstFailure.succ (h : IsFirstFailure rest count)
    (passes : ¬ IsFailing reply) :
    IsFirstFailure (reply :: rest) (count + 1) := by
  refine ⟨h.fails, ?_⟩
  rw [List.take_succ_cons]
  exact List.forall_mem_cons.mpr ⟨passes, h.before⟩

theorem IsFirstFailure.unique {replies : List (Nat × String)}
    {first second : Nat} (h : IsFirstFailure replies first)
    (other : IsFirstFailure replies second) : first = second := by
  have not_below {low high : Nat} (fails : IsFirstFailure replies low)
      (passes : IsFirstFailure replies high) : ¬ low < high := by
    intro below
    obtain ⟨reply, place, failing⟩ := fails.fails
    have kept : (replies.take high)[low]? = some reply := by
      rw [List.getElem?_take_of_lt below, place]
    exact passes.before reply (List.mem_of_getElem? kept) failing
  exact Nat.le_antisymm (Nat.not_lt.mp (not_below other h))
    (Nat.not_lt.mp (not_below h other))

theorem isErrorStatus_iff (status : Nat) :
    isErrorStatus status = true ↔ 400 ≤ status ∧ status < 600 := by
  simp [isErrorStatus]

theorem readResponse_of_failing (failing : IsFailing reply) :
    ∃ failure, readResponse reply.1 reply.2 = .error failure := by
  unfold readResponse
  split
  · exact ⟨_, rfl⟩
  · rename_i passes
    have unread := failing.resolve_left (mt (isErrorStatus_iff _).mpr passes)
    cases read : Batch.ofBody (withoutMark reply.2) with
    | ok batch => simp [read, Except.isOk, Except.toBool] at unread
    | error failure => exact ⟨failure, rfl⟩

theorem readResponse_of_passing (passes : ¬ IsFailing reply) :
    ∃ batch, Batch.ofBody (withoutMark reply.2) = .ok batch ∧
      readResponse reply.1 reply.2 = .ok batch := by
  obtain ⟨status_ok, body_ok⟩ := not_or.mp passes
  rw [readResponse, if_neg (mt (isErrorStatus_iff _).mp status_ok)]
  cases read : Batch.ofBody (withoutMark reply.2) with
  | ok batch => exact ⟨batch, rfl, rfl⟩
  | error failure => exact absurd (by rw [read]; rfl) body_ok

def answering (url : Url) (reply : Nat × String) (cursor : Option Cursor) :
    Reply :=
  LogServer.reply url cursor (.answered reply.1 reply.2)

/-- What a web server answers does not depend on what it is asked. -/
theorem answering_of_web (web : Exchange.isSendable url = true)
    (reply : Nat × String) (cursor : Option Cursor) :
    answering url reply cursor = readResponse reply.1 reply.2 := by
  have sendable : Exchange.isSendable (requestUrl url cursor) = true := by
    cases cursor <;> exact web
  rw [answering, LogServer.reply, Exchange.response?, if_pos sendable]

end LogServer

open LogServer

/-! ## Failed polls -/

namespace Session

/-- A poll that pauses the session and leaves what it shows and its place in the
log alone. -/
structure FailsUnchanged (session : Session) (result : PollResult) : Prop where
  delay : result.delay = none
  phase : result.session.phase = .paused
  dashboard : result.session.dashboard = session.dashboard
  cursor : result.session.cursor = session.cursor

variable {session : Session} {url : Url}

theorem poll_answering_fails_iff (active : session.phase ≠ .paused)
    (web : Exchange.isSendable url = true) (reply : Nat × String) :
    session.FailsUnchanged (session.poll (answering url reply)) ↔
      IsFailing reply := by
  have answer := answering_of_web web reply session.cursor
  rw [poll_of_answer answer]
  by_cases fails : IsFailing reply
  · obtain ⟨failure, read⟩ := readResponse_of_failing fails
    rw [read, poll_failure active]
    exact iff_of_true ⟨rfl, rfl, rfl, rfl⟩ fails
  · obtain ⟨batch, -, read⟩ := readResponse_of_passing fails
    rw [read, poll_batch active]
    refine iff_of_false (fun unchanged => ?_) fails
    cases unchanged.delay

/-- A body that holds a batch without lines. -/
def emptyLogBody : String := "\x7b\"log\":[],\"delay\":1,\"ts\":2\x7d"

theorem fails_whatever_body_iff (active : session.phase ≠ .paused)
    (web : Exchange.isSendable url = true) (status : Nat) :
    (∀ body, session.FailsUnchanged
        (session.poll (answering url (status, body)))) ↔
      400 ≤ status ∧ status < 600 := by
  simp only [poll_answering_fails_iff active web]
  refine ⟨fun fails => ?_, fun error body => .inl error⟩
  have readable :
      (Batch.ofBody (withoutMark emptyLogBody)).isOk = true := by
    decide +kernel
  refine (fails emptyLogBody).resolve_right fun unread => ?_
  rw [readable] at unread
  cases unread

end Session

/-! ## Failed charts -/

namespace ChartSet

def Fails (source : Url) (unit : ChartUnit) (exchange : Exchange) : Prop :=
  ∃ message, outcome source unit exchange = .failed message

/-- A body that holds the rows of a chart, of which there are none. -/
def emptyChartBody : String := "\x7b\"rows\":[]\x7d"

theorem fails_whatever_body_iff {source : Url}
    (web : Exchange.isSendable source = true) (unit : ChartUnit)
    (status : Nat) :
    (∀ body, Fails source unit (.answered status body)) ↔
      ¬ (200 ≤ status ∧ status < 300) := by
  obtain ⟨_, name, known⟩ := exists_isKnownAs unit
  constructor
  · intro fails
    obtain ⟨message, failed⟩ := fails emptyChartBody
    have readable : ChartBody.rows emptyChartBody = .ok [] := by
      decide +kernel
    have renders :=
      outcome_renders web known (.answered status emptyChartBody)
    rw [failed] at renders
    cases renders with
    | malformed success unread =>
        rw [readable] at unread
        cases unread
    | refused failure => exact failure
  · intro failure body
    have renders := outcome_renders web known (.answered status body)
    generalize shown : outcome source unit (.answered status body) = outcome
      at renders
    cases renders with
    | shown success => exact absurd success failure
    | malformed => exact ⟨_, shown⟩
    | refused => exact ⟨_, shown⟩

end ChartSet

/-! ## Which statuses fail -/

namespace Session

/--
A poll fails for an error status, and else for a body that holds no batch.  So
the statuses that fail a poll whatever the body are those of errors, while those
that fail a chart are all but success.
-/
theorem poll_and_chart_failures {session : Session}
    (active : session.phase ≠ .paused) {url source : Url}
    (web : Exchange.isSendable url = true)
    (chartWeb : Exchange.isSendable source = true) (unit : ChartUnit)
    (status : Nat) :
    (∀ body, session.FailsUnchanged
        (session.poll (answering url (status, body))) ↔
          (400 ≤ status ∧ status < 600) ∨
            (Batch.ofBody (withoutMark body)).isOk = false) ∧
      ((∀ body, session.FailsUnchanged
          (session.poll (answering url (status, body)))) ↔
        400 ≤ status ∧ status < 600) ∧
      ((∀ body, ChartSet.Fails source unit (.answered status body)) ↔
        ¬ (200 ≤ status ∧ status < 300)) :=
  ⟨fun body => poll_answering_fails_iff active web (status, body),
    fails_whatever_body_iff active web status,
    ChartSet.fails_whatever_body_iff chartWeb unit status⟩

def localLogUrl : Url where
  scheme := "http".toList
  authority := some ⟨[], none, .ipv4 0x7F000001, some 8000⟩
  path := .rooted ["log".toList]
  query := none
  fragment := none

theorem busy_server_fails_both :
    let session := Session.new (.new .utc) none true
    (∀ body, session.FailsUnchanged
        (session.poll (answering localLogUrl (503, body)))) ∧
      ∀ body, ChartSet.Fails localLogUrl .hour (.answered 503 body) := by
  intro session
  obtain ⟨-, log, chart⟩ := @poll_and_chart_failures session (by decide)
    localLogUrl localLogUrl (by decide) (by decide) .hour 503
  exact ⟨log.mpr (by decide), chart.mpr (by decide)⟩

/-- A redirection fails a chart, but a poll takes a batch from it. -/
theorem redirection_passes_as_batch :
    let session := Session.new (.new .utc) none true
    let result := session.poll (answering localLogUrl (300, emptyLogBody))
    ¬ (200 ≤ 300 ∧ 300 < 300) ∧
      result.delay = some (.ofSeconds 1) ∧
      result.session.phase = .scheduled (.ofSeconds 1) ∧
      result.session.cursor = some ⟨.ofNat 2⟩ ∧
      ¬ session.FailsUnchanged result ∧
      ChartSet.Fails localLogUrl .hour (.answered 300 emptyLogBody) := by
  intro session result
  have delay : result.delay = some (.ofSeconds 1) := by decide +kernel
  refine ⟨by decide, delay, by decide +kernel, by decide +kernel,
    fun unchanged => ?_, _, rfl⟩
  rw [unchanged.delay] at delay
  cases delay

end Session

end MeterWatch
