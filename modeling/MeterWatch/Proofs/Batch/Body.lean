import MeterWatch.Batch.Body
import MeterWatch.Proofs.Json.Number

/-!
# Accepted responses

All numbers of a response that is accepted are finite, in whichever of its two
forms it came.  So is the cursor of the batch that it stands for.
-/

namespace MeterWatch

open Json

/-! ## Finite fields -/

def Entry.IsFinite (entry : Entry) : Prop :=
  entry.readStart.isFinite = true ∧ entry.readDuration.isFinite = true

structure PartialResponse.IsFinite (fields : PartialResponse) : Prop where
  log : ∀ log ∈ fields.log, ∀ entry ∈ log, entry.IsFinite
  delay : ∀ delay ∈ fields.delay, delay.isFinite = true
  ts : ∀ ts ∈ fields.ts, ∀ value ∈ ts, value.isFinite = true

structure PollResponse.IsFinite (response : PollResponse) : Prop where
  log : ∀ entry ∈ response.log, entry.IsFinite
  delay : response.delay.isFinite = true
  ts : ∀ value ∈ response.ts, value.isFinite = true

structure Batch.IsFinite (batch : Batch) : Prop where
  entries : ∀ entry ∈ batch.entries, entry.IsFinite
  cursor : ∀ cursor ∈ batch.cursor, cursor.position.isFinite = true

theorem readEntry_isFinite : Gives readEntry Entry.IsFinite := by
  intro text
  refine ensures_bind fun elements => ?_
  refine (elementAt_gives readNumber_isFinite _ 0 _).bind
    fun ⟨readStart, rest⟩ start_finite => ?_
  refine (elementAt_gives readNumber_isFinite _ 1 _).bind
    fun ⟨readDuration, rest⟩ duration_finite => ?_
  refine ensures_bind fun ⟨line, rest⟩ => ensures_bind fun _ => ?_
  exact ensures_ok ⟨start_finite, duration_finite⟩

/-! ## Responses -/

namespace PollResponse

theorem member_isFinite (fields : PartialResponse) (key : List Char)
    (finite : fields.IsFinite) :
    Gives (member fields key) PartialResponse.IsFinite := by
  intro text
  unfold member
  split
  case h_1 =>
    split
    · exact ensures_duplicate
    · refine ensures_bind fun _ => (readList_gives readEntry_isFinite _).bind
        fun ⟨log, rest⟩ log_finite => ensures_ok { finite with log := ?_ }
      rintro _ ⟨⟩
      exact log_finite
  case h_2 | h_3 =>
    split
    · exact ensures_duplicate
    · refine ensures_bind fun _ => (readNumber_isFinite _).bind
        fun ⟨delay, rest⟩ delay_finite =>
          ensures_ok { finite with delay := ?_ }
      rintro _ ⟨⟩
      exact delay_finite
  case h_4 =>
    split
    · exact ensures_duplicate
    · refine ensures_bind fun _ =>
        (readOptional_gives readNumber_isFinite _).bind
          fun ⟨ts, rest⟩ ts_finite => ensures_ok { finite with ts := ?_ }
      rintro _ ⟨⟩
      exact ts_finite
  case h_5 => exact ensures_bind fun _ => ensures_ok finite

theorem complete_isFinite {fields : PartialResponse} (rest : List Char)
    (finite : fields.IsFinite) : Ensures (complete fields rest) IsFinite := by
  unfold complete
  split
  · rename_i log delay hlog hdelay
    refine ensures_ok ⟨finite.log log hlog, finite.delay delay hdelay, ?_⟩
    intro value member
    cases ts_eq : fields.ts with
    | none => simp [ts_eq] at member
    | some ts =>
        rw [ts_eq] at member
        exact finite.ts ts ts_eq value member
  · exact ensures_error
  · exact ensures_error

theorem readObject_isFinite : Gives readObject IsFinite := by
  intro text
  have start : PartialResponse.IsFinite ⟨none, none, none⟩ :=
    ⟨by simp, by simp, by simp⟩
  refine (readMembers_gives member_isFinite start text).bind
    fun ⟨fields, rest⟩ finite => ?_
  exact (complete_isFinite rest finite).bind
    fun _ response_finite => ensures_ok response_finite

theorem readElements_isFinite : Gives readElements IsFinite := by
  intro text
  refine (elementAt_gives (readList_gives readEntry_isFinite) _ 0 _).bind
    fun ⟨log, rest⟩ log_finite => ?_
  refine (elementAt_gives readNumber_isFinite _ 1 _).bind
    fun ⟨delay, rest⟩ delay_finite => ?_
  refine ensures_bind fun next => ?_
  cases next with
  | none =>
      exact ensures_bind fun _ =>
        ensures_ok ⟨log_finite, delay_finite, by simp⟩
  | some element =>
      refine (readOptional_gives readNumber_isFinite _).bind
        fun ⟨ts, rest⟩ ts_finite => ensures_bind fun _ => ?_
      exact ensures_ok ⟨log_finite, delay_finite, ts_finite⟩

theorem read_isFinite : Gives PollResponse.read IsFinite := by
  intro text
  unfold PollResponse.read
  split
  · exact ensures_error
  · exact readObject_isFinite _
  · exact readElements_isFinite _
  · exact ensures_wrongType

/-! ## Batches -/

theorem cursor_isFinite {response : PollResponse} (finite : response.IsFinite)
    {cursor : Cursor} (h : response.cursor = some cursor) :
    cursor.position.isFinite = true := by
  unfold PollResponse.cursor at h
  split at h
  · rename_i ts ts_eq
    cases h
    exact finite.ts ts ts_eq
  · obtain ⟨last, last_eq, rfl⟩ := Option.map_eq_some_iff.mp h
    exact (finite.log last (List.mem_of_getLast? last_eq)).1

theorem toBatch_isFinite {response : PollResponse} (finite : response.IsFinite)
    {batch : Batch} (h : response.toBatch = .ok batch) : batch.IsFinite := by
  unfold toBatch at h
  split at h
  · cases h
    exact ⟨finite.log, fun cursor => cursor_isFinite finite⟩
  · cases h

end PollResponse

theorem Batch.ofBody_isFinite {body : String} {batch : Batch}
    (h : Batch.ofBody body = .ok batch) : batch.IsFinite := by
  simp only [Batch.ofBody] at h
  split at h
  · rename_i response accepted
    exact PollResponse.toBatch_isFinite
      (readDocument_ensures PollResponse.read_isFinite _ response accepted) h
  · cases h

end MeterWatch
