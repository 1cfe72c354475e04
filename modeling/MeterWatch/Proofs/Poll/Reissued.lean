import MeterWatch.Http.LogServer
import MeterWatch.Proofs.Batch.Issued
import MeterWatch.Proofs.Decimal.Reread
import MeterWatch.Proofs.Poll.Calls

/-!
# Cursors that are sent back

A session asks with the text of the cursor that it was given last, and a server
may answer with that same text.  Where the text is read back as the number it
was written for, the session stays where it is however often this happens.
-/

namespace MeterWatch

open Emission

/-- The server answers a request with a body that issues this number. -/
def Reissues (number : Binary64) (asked : Option Cursor)
    (fetch : Option Cursor → Reply) : Prop :=
  ∃ body entries delay, Issues number.plain.toList entries delay body ∧
    fetch asked = Batch.ofBody body

theorem Reissues.exists_batch {number : Binary64}
    (finite : number.isFinite = true) (readBack : number.reread? = some number)
    {asked : Option Cursor} {fetch : Option Cursor → Reply}
    (h : Reissues number asked fetch) :
    ∃ batch, fetch asked = .ok batch ∧ batch.cursor = some ⟨number⟩ := by
  obtain ⟨body, entries, delay, issues, answer⟩ := h
  rw [← Binary64.numberOf?_plain finite] at readBack
  exact ⟨_, answer.trans (issues.ofBody_some readBack), rfl⟩

namespace Session

/-! ## Polling a server that answers alike -/

theorem nextCursor_self (held : Option Cursor) :
    nextCursor held held = held := by
  cases held with
  | none => rfl
  | some cursor =>
      simp only [nextCursor]
      split <;> rfl

theorem nextCursor_of_not_less {held : Option Cursor} {offered : Cursor}
    (ahead : ∀ cursor ∈ held, offered.position.isLess cursor.position = false) :
    nextCursor held (some offered) = some offered := by
  cases held with
  | none => rfl
  | some cursor => simp [nextCursor, ahead cursor rfl]

theorem pollAll_nil {session : Session} (active : session.phase ≠ .paused)
    (ending : Option Cursor → FetchFailure) :
    (session.pollAll ending []).1.cursor = session.cursor ∧
      requests (session.pollAll ending []).2 = [session.cursor] := by
  rw [pollAll, poll_of_answer rfl, poll_failure active]
  exact ⟨rfl, rfl⟩

theorem pollAll_offered {session : Session} (active : session.phase ≠ .paused)
    {cursor : Cursor} (held : session.cursor = some cursor)
    (ending : Option Cursor → FetchFailure)
    {sources : List (Option Cursor → Reply)}
    (offers : ∀ fetch ∈ sources,
      ∃ batch, fetch (some cursor) = .ok batch ∧ batch.cursor = some cursor) :
    (session.pollAll ending sources).1.cursor = some cursor ∧
      requests (session.pollAll ending sources).2 =
        List.replicate (sources.length + 1) (some cursor) := by
  induction sources generalizing session with
  | nil =>
      rw [← held]
      exact pollAll_nil active ending
  | cons fetch rest ih =>
      obtain ⟨⟨batch, answer, offered⟩, rest_offers⟩ :=
        List.forall_mem_cons.mp offers
      rw [← held] at answer
      have kept : (session.afterBatch batch).cursor = some cursor := by
        change nextCursor session.cursor batch.cursor = _
        rw [held, offered, nextCursor_self]
      obtain ⟨final, asked⟩ := ih (by simp) kept rest_offers
      rw [requests_pollAll_batch active ending answer, held, asked,
        pollAll_batch active ending answer]
      exact ⟨final, rfl⟩

/-! ## Issued cursors -/

/-- A session to which the number is issued asks with it from then on, as long
as the number is issued again. -/
def StaysAt (number : Binary64) : Prop :=
  ∀ (session : Session) (ending : Option Cursor → FetchFailure)
    (first : Option Cursor → Reply) (later : List (Option Cursor → Reply)),
    session.phase ≠ .paused →
    (∀ held ∈ session.cursor, number.isLess held.position = false) →
    Reissues number session.cursor first →
    (∀ fetch ∈ later, Reissues number (some ⟨number⟩) fetch) →
    let outcome := session.run ending (first :: later)
    outcome.1.cursor = some ⟨number⟩ ∧
      requests outcome.2 =
        session.cursor :: List.replicate (later.length + 1) (some ⟨number⟩)

theorem staysAt_of_reread {number : Binary64}
    (finite : number.isFinite = true)
    (readBack : number.reread? = some number) : StaysAt number := by
  intro session ending first later active ahead issued reissued outcome
  obtain ⟨batch, answer, offered⟩ := issued.exists_batch finite readBack
  have led : (session.afterBatch batch).cursor = some ⟨number⟩ := by
    change nextCursor session.cursor batch.cursor = _
    rw [offered, nextCursor_of_not_less ahead]
  obtain ⟨final, asked⟩ := pollAll_offered (by simp) led ending
    fun fetch member => (reissued fetch member).exists_batch finite readBack
  constructor
  · change (session.pollAll ending (first :: later)).1.cursor = _
    rw [pollAll_batch active ending answer, final]
  · rw [requests_run, requests_pollAll_batch active ending answer, asked]

/--
The text of a finite number leads back to that number exactly if it is read
again as it was; digits and a power of ten that need no rounding are enough for
that.  A server that sends such a cursor back never moves the session, which
asks with the text that was issued.
-/
theorem issued_cursor_returns (number : Binary64)
    (finite : number.isFinite = true) :
    let text := number.plain.toList
    (∀ body entries delay, Issues text entries delay body →
        (Batch.ofBody body = .ok ⟨entries, delay, some ⟨number⟩⟩ ↔
          number.reread? = some number)) ∧
      (number.IsReadExactly → number.reread? = some number) ∧
      (number.reread? = some number → StaysAt number) ∧
      ∀ url, LogServer.requestUrl url (some ⟨number⟩) =
        url.addQuery "ts".toList text := by
  intro text
  refine ⟨fun body entries delay issues => ?_,
    Binary64.reread?_of_isReadExactly, staysAt_of_reread finite, fun url => rfl⟩
  rw [← Binary64.numberOf?_plain finite]
  exact issues.ofBody_iff number

theorem issued_half_second_returns :
    let number : Binary64 := .finite false 0x41d954fc43200000 (by decide)
    let body := "\x7b\"log\":[],\"delay\":6,\"ts\":1700000012.5\x7d"
    let session := Session.new (.new .utc) none true
    let source : Option Cursor → Reply := fun _ => Batch.ofBody body
    let outcome := session.run (fun _ => .unknown) [source, source]
    number.isFinite = true ∧ number.IsReadExactly ∧
      Batch.ofBody body = .ok ⟨[], .ofSeconds 6, some ⟨number⟩⟩ ∧
      outcome.1.cursor = some ⟨number⟩ ∧
      requests outcome.2 = [none, some ⟨number⟩, some ⟨number⟩] := by
  intro number body session source outcome
  obtain ⟨accepted, exactly, stays, -⟩ := issued_cursor_returns number rfl
  have readExactly : number.IsReadExactly :=
    Binary64.isReadExactly_of_places _ (by decide +kernel) (by decide +kernel)
  have issues : Issues number.plain.toList [] (.ofSeconds 6) body := by
    have body_eq : body = String.ofList (reissue number.plain.toList) := by
      decide +kernel
    rw [body_eq]
    exact issues_reissue (Binary64.plain_isNumber rfl)
  have readBack := exactly readExactly
  have reissues (asked : Option Cursor) : Reissues number asked source :=
    ⟨body, _, _, issues, rfl⟩
  obtain ⟨final, asked⟩ := stays readBack session (fun _ => .unknown) source
    [source] (by decide) (by decide) (reissues _)
    (List.forall_mem_singleton.mpr (reissues _))
  exact ⟨rfl, readExactly, (accepted _ _ _ issues).mpr readBack, final, asked⟩

/-- The significand is rounded before it is divided here, and the number is read
as the one before it. -/
theorem issued_seven_places_move :
    let number : Binary64 := .finite false 0x41d954fc43200009 (by decide)
    let before : Binary64 := .finite false 0x41d954fc43200008 (by decide)
    let body := "\x7b\"log\":[],\"delay\":6,\"ts\":1700000012.5000021\x7d"
    number.isFinite = true ∧ number.plain = "1700000012.5000021" ∧
      Issues number.plain.toList [] (.ofSeconds 6) body ∧
      Batch.ofBody body = .ok ⟨[], .ofSeconds 6, some ⟨before⟩⟩ ∧
      before ≠ number ∧ before.plain = "1700000012.500002" := by
  intro number before body
  have issues : Issues number.plain.toList [] (.ofSeconds 6) body := by
    have body_eq : body = String.ofList (reissue number.plain.toList) := by
      decide +kernel
    rw [body_eq]
    exact issues_reissue (Binary64.plain_isNumber rfl)
  have read : Json.numberOf? number.plain.toList = some before := by
    decide +kernel
  exact ⟨rfl, by decide +kernel, issues, issues.ofBody_some read,
    by decide +kernel, by decide +kernel⟩

end Session

end MeterWatch
