import MeterWatch.Proofs.Batch.Body
import MeterWatch.Proofs.Batch.Presented
import MeterWatch.Proofs.Duration

/-!
# What a batch guarantees

Whatever the body of a batch looks like, its numbers are finite and its delay
fits into whole seconds and nanoseconds.  It continues at the position that the
body presents, and without one at the start of its last entry.
-/

namespace MeterWatch

open Json PollResponse

/-! ## Batches and bodies -/

structure Duration.IsWellFormed (duration : Duration) : Prop where
  seconds_lt : duration.seconds < 2 ^ 64
  subsecond_lt : duration.subsecond < 10 ^ 9
  nanoseconds_eq :
    duration.nanoseconds = duration.seconds * 10 ^ 9 + duration.subsecond

/-- Where a batch continues whose body has this position, or none. -/
inductive ContinuesAt (entries : List Entry) :
    Option Value → Option Cursor → Prop where
  | position {literal : List Char} {seconds : Binary64}
      (read : numberOf? literal = some seconds) :
      ContinuesAt entries (some (.number literal)) (some ⟨seconds⟩)
  | lastEntry {ts : Option Value} (unset : ts = none ∨ ts = some .null) :
      ContinuesAt entries ts
        (entries.getLast?.map fun entry => ⟨entry.readStart⟩)

/-- The batch holds what its body presents. -/
structure Batch.Reflects (batch : Batch) (log : Value)
    (ts : Option Value) : Prop where
  entries : ∃ elements, log = .list elements ∧
    List.Forall₂ IsTriple elements batch.entries
  cursor : ContinuesAt batch.entries ts batch.cursor
  unset : batch.cursor = none ↔
    (ts = none ∨ ts = some .null) ∧ batch.entries = []

/-! ## Accepted bodies -/

theorem Batch.ofBody_eq_ok_iff {body : String} {batch : Batch} :
    Batch.ofBody body = .ok batch ↔
      ∃ response, readDocument PollResponse.read body.toList = .ok response ∧
        Duration.ofBinary64? response.delay = some batch.delay ∧
        batch.entries = response.log ∧ batch.cursor = response.cursor := by
  obtain ⟨entries, delay, cursor⟩ := batch
  simp only [Batch.ofBody]
  cases readDocument PollResponse.read body.toList with
  | error fault => simp
  | ok response =>
      simp only [Except.ok.injEq, exists_eq_left', toBatch]
      cases Duration.ofBinary64? response.delay with
      | none => simp
      | some seconds =>
          simp only [Except.ok.injEq, Batch.mk.injEq, Option.some.injEq]
          tauto

theorem Duration.isWellFormed_ofBinary64? {pause : Binary64} {delay : Duration}
    (h : ofBinary64? pause = some delay) : delay.IsWellFormed :=
  ⟨ofBinary64?_seconds_lt h, delay.subsecond_lt, delay.nanoseconds_eq⟩

theorem continuesAt_cursor {ts : Option Value} {response : PollResponse}
    (h : IsPosition ts.toList response.ts) :
    ContinuesAt response.log ts response.cursor := by
  obtain ⟨log, delay, position⟩ := response
  cases ts with
  | none =>
      cases h
      exact .lastEntry (.inl rfl)
  | some value =>
      cases h with
      | null => exact .lastEntry (.inr rfl)
      | number read => exact .position read

theorem ContinuesAt.eq_none_iff {entries : List Entry} {ts : Option Value}
    {cursor : Option Cursor} (h : ContinuesAt entries ts cursor) :
    cursor = none ↔ (ts = none ∨ ts = some .null) ∧ entries = [] := by
  cases h with
  | position => simp
  | lastEntry unset =>
      rw [Option.map_eq_none_iff, List.getLast?_eq_none_iff]
      exact (and_iff_right unset).symm

/-! ## Guarantees -/

/--
What a poll relies on when a body is accepted.  Such a body presents a log, a
delay and perhaps a position, and its batch holds what is presented.
-/
theorem Batch.ofBody_guarantees {body : String} {batch : Batch}
    (h : Batch.ofBody body = .ok batch) :
    batch.IsFinite ∧ batch.delay.IsWellFormed ∧
      (∃ log delay ts, Presents body.toList log delay ts) ∧
      ∀ log delay ts, Presents body.toList log delay ts →
        batch.Reflects log ts := by
  obtain ⟨response, found, hdelay, entries_eq, cursor_eq⟩ :=
    Batch.ofBody_eq_ok_iff.mp h
  refine ⟨Batch.ofBody_isFinite h, Duration.isWellFormed_ofBinary64? hdelay,
    exists_presented found, fun log delay ts presents => ?_⟩
  have decoded := presents.readDocument
  rw [found, toOption_ok, eq_comm, decode?_eq_some_iff] at decoded
  obtain ⟨log_eq, -, position⟩ := decoded
  have continues := continuesAt_cursor position
  rw [← entries_eq] at log_eq continues
  rw [← cursor_eq] at continues
  exact ⟨log_eq, continues, continues.eq_none_iff⟩

/-- A member that is skipped may even have a string of half a character. -/
def unpairedBody : String :=
  "\x7b\"log\":[[1,2,\"x\"]],\"sleep\":5,\"note\":\"\\ud800\"\x7d"

def unpairedBatch : Batch :=
  ⟨[⟨.ofNat 1, .ofNat 2, "x"⟩], .ofSeconds 5, some ⟨.ofNat 1⟩⟩

theorem unpaired_body_guarantees :
    Batch.ofBody unpairedBody = .ok unpairedBatch ∧
      unpairedBatch.IsFinite ∧ unpairedBatch.delay.IsWellFormed ∧
      ∃ log delay ts, Presents unpairedBody.toList log delay ts ∧
        unpairedBatch.Reflects log ts := by
  have accepted : Batch.ofBody unpairedBody = .ok unpairedBatch := by
    decide +kernel
  obtain ⟨finite, wellFormed, ⟨log, delay, ts, presents⟩, reflects⟩ :=
    Batch.ofBody_guarantees accepted
  exact ⟨accepted, finite, wellFormed, log, delay, ts, presents,
    reflects log delay ts presents⟩

end MeterWatch
