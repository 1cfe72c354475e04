import MeterWatch.Proofs.Batch.Guarantees
import MeterWatch.Proofs.Poll.Calls

/-!
# Delays that are asked for

A body that is well formed asks for a delay in seconds.  The body is accepted
exactly if the delay is not below zero and below 2^64, and the next poll is then
due after the nearest whole number of nanoseconds.
-/

namespace MeterWatch

open Json PollResponse

/-! ## Bodies -/

/-- A body that is well formed, at least but for the size of its delay. -/
inductive Asks (pause : Binary64) (body : String) : Prop where
  | intro {elements : List Value} {entries : List Entry}
      {literal : List Char} {ts : Option Value} {position : Option Binary64}
      (presents : Presents body.toList (.list elements) (.number literal) ts)
      (triples : List.Forall₂ IsTriple elements entries)
      (read : numberOf? literal = some pause)
      (hts : IsPosition ts.toList position) : Asks pause body

theorem asks_iff {pause : Binary64} {body : String} :
    Asks pause body ↔
      ∃ response, readDocument PollResponse.read body.toList = .ok response ∧
        response.delay = pause := by
  constructor
  · rintro @⟨elements, entries, literal, ts, position, presents, triples, read,
      hts⟩
    have decoded : decode? (.list elements) (.number literal) ts =
        some ⟨entries, pause, position⟩ :=
      decode?_eq_some_iff.mpr ⟨⟨_, rfl, triples⟩, ⟨_, rfl, read⟩, hts⟩
    exact ⟨_, readDocument_eq_ok_iff.mpr ⟨_, _, _, presents, decoded⟩, rfl⟩
  · rintro ⟨response, found, rfl⟩
    obtain ⟨log, delay, ts, presents, decoded⟩ :=
      readDocument_eq_ok_iff.mp found
    obtain ⟨⟨elements, rfl, triples⟩, ⟨literal, rfl, read⟩, hts⟩ :=
      decode?_eq_some_iff.mp decoded
    exact .intro presents triples read hts

section Bodies

variable {pause : Binary64} {body : String} (h : Asks pause body)

include h

theorem Asks.delay_eq {batch : Batch} (accepted : Batch.ofBody body = .ok batch) :
    Duration.ofBinary64? pause = some batch.delay := by
  obtain ⟨response, found, rfl⟩ := asks_iff.mp h
  obtain ⟨response', found', hdelay, -⟩ := Batch.ofBody_eq_ok_iff.mp accepted
  cases found.symm.trans found'
  exact hdelay

theorem Asks.exists_batch_iff :
    (∃ batch, Batch.ofBody body = .ok batch) ↔ Duration.IsHonoured pause := by
  rw [← Duration.isSome_ofBinary64?_iff]
  constructor
  · rintro ⟨batch, accepted⟩
    rw [h.delay_eq accepted, Option.isSome_some]
  · intro isSome
    obtain ⟨delay, hdelay⟩ := Option.isSome_iff_exists.mp isSome
    obtain ⟨response, found, rfl⟩ := asks_iff.mp h
    exact ⟨⟨response.log, delay, response.cursor⟩,
      Batch.ofBody_eq_ok_iff.mpr ⟨response, found, hdelay, rfl, rfl⟩⟩

theorem Asks.refused (unfit : ¬ Duration.IsHonoured pause) :
    Batch.ofBody body = .error (.invalidDelay pause) := by
  rw [← Duration.isSome_ofBinary64?_iff, Option.not_isSome_iff_eq_none] at unfit
  obtain ⟨response, found, rfl⟩ := asks_iff.mp h
  simp only [Batch.ofBody, found, toBatch, unfit]

end Bodies

/-! ## Polls -/

namespace Session

theorem poll_of_fetch {session : Session} (active : session.phase ≠ .paused)
    {fetch : Option Cursor → Reply} {batch : Batch}
    (answer : fetch session.cursor = .ok batch) :
    (session.poll fetch).delay = some batch.delay ∧
      (session.poll fetch).session.phase = .scheduled batch.delay := by
  have same : session.poll fetch =
      session.poll fun _ => fetch session.cursor := rfl
  rw [same, answer, poll_batch active]
  exact ⟨rfl, rfl⟩

/--
A delay that is accepted is rounded once, to the nearest nanosecond, so a longer
one never makes the next poll come sooner.  Any other is reported as it is.
-/
theorem delay_is_honoured {pause : Binary64} {body : String}
    (h : Asks pause body) :
    ((∃ batch, Batch.ofBody body = .ok batch) ↔ Duration.IsHonoured pause) ∧
      (¬ Duration.IsHonoured pause →
        Batch.ofBody body = .error (.invalidDelay pause)) ∧
      ∀ batch, Batch.ofBody body = .ok batch →
        (∃ seconds, pause.rational? = some seconds ∧
          IsNearestEven (seconds * 10 ^ 9) batch.delay.nanoseconds) ∧
        batch.delay.IsWellFormed ∧
        (∀ pause' body' batch' seconds seconds', Asks pause' body' →
          Batch.ofBody body' = .ok batch' →
          pause.rational? = some seconds → pause'.rational? = some seconds' →
          seconds ≤ seconds' →
            batch.delay.nanoseconds ≤ batch'.delay.nanoseconds) ∧
        ∀ (session : Session) (fetch : Option Cursor → Reply),
          session.phase ≠ .paused →
          fetch session.cursor = Batch.ofBody body →
            (session.poll fetch).delay = some batch.delay ∧
              (session.poll fetch).session.phase =
                .scheduled batch.delay := by
  refine ⟨h.exists_batch_iff, h.refused, fun batch accepted => ?_⟩
  have hdelay := h.delay_eq accepted
  refine ⟨Duration.ofBinary64?_isNearestEven hdelay,
    Duration.isWellFormed_ofBinary64? hdelay, ?_, ?_⟩
  · intro pause' body' batch' seconds seconds' h' accepted' value value' le
    exact Duration.ofBinary64?_mono hdelay (h'.delay_eq accepted') value value'
      le
  · intro session fetch active answer
    exact poll_of_fetch active (answer.trans accepted)

/-- A 1024th of a second. -/
def halfway : Binary64 := .ofRank false (1013 * Binary64.binade)

def halfwayBody : String :=
  "\x7b\"log\":[],\"delay\":0.0009765625\x7d"

def tinyBody : String := "\x7b\"log\":[],\"delay\":-5e-324\x7d"

/-- Half a nanosecond is rounded to an even number of them, and the least number
below zero is refused. -/
theorem halfway_delay_is_honoured :
    Batch.ofBody halfwayBody = .ok ⟨[], ⟨976562⟩, none⟩ ∧
      (∃ seconds, halfway.rational? = some seconds ∧
        IsNearestEven (seconds * 10 ^ 9) 976562) ∧
      ((Session.new (.new .utc) none true).poll
        fun _ => Batch.ofBody halfwayBody).delay = some ⟨976562⟩ ∧
      Batch.ofBody tinyBody = .error (.invalidDelay (.ofRank true 1)) := by
  have asks : Asks halfway halfwayBody :=
    asks_iff.mpr ⟨⟨[], halfway, none⟩, by decide +kernel, rfl⟩
  have asks' : Asks (.ofRank true 1) tinyBody :=
    asks_iff.mpr ⟨⟨[], .ofRank true 1, none⟩, by decide +kernel, rfl⟩
  have accepted : Batch.ofBody halfwayBody = .ok ⟨[], ⟨976562⟩, none⟩ := by
    decide +kernel
  obtain ⟨-, -, honoured⟩ := delay_is_honoured asks
  obtain ⟨nearest, -, -, polled⟩ := honoured _ accepted
  obtain ⟨-, refused, -⟩ := delay_is_honoured asks'
  obtain ⟨due, -⟩ := polled (Session.new (.new .utc) none true)
    (fun _ => Batch.ofBody halfwayBody) (by decide) rfl
  refine ⟨accepted, nearest, due, refused ?_⟩
  rw [← Duration.isSome_ofBinary64?_iff]
  decide +kernel

end Session

end MeterWatch
