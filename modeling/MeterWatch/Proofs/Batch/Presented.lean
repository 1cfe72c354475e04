import MeterWatch.Proofs.Batch.Accepted
import MeterWatch.Proofs.Json.Listing

/-!
# What a response presents

A text presents the values of a log, of a delay and perhaps of a position, as the
members of an object or as the elements of a list.  Any other members of an
object need only be passed over.  A text is read as a response exactly if it
presents values that are decoded to it.
-/

namespace MeterWatch

open Json

namespace PollResponse

/-! ## Texts -/

/-- The names of the members that are not skipped. -/
def IsAsked (key : List Char) : Prop :=
  String.ofList key ∈ ["log", "delay", "sleep", "ts"]

inductive Presents (text : List Char) (log delay : Value) :
    Option Value → Prop where
  | object {members : List (List Char × Value)} {ts : Option Value}
      {inner rest : List Char} (brace : skipBlanks text = '\x7b' :: inner)
      (listed : Listed IsAsked true members inner rest)
      (ends : ∀ c ∈ rest, c ∈ blanks)
      (fields : HasFields (.object members) log delay ts) :
      Presents text log delay ts
  | list {ts : Option Value}
      (document : IsDocument (.list (log :: delay :: ts.toList)) text) :
      Presents text log delay ts

/-! ## Members -/

theorem decodesAsked_member : DecodesAsked IsAsked member step where
  supplied fields _ _ _ _ _ hcolon written ends :=
    decodesMember_member hcolon written ends
  ignored fields key gap inner rest other hcolon passed ends := by
    have skipped : skipMember gap = .ok rest := by
      rw [skipMember, hcolon, ok_bind, skipValue_passed passed ends]
    simp only [IsAsked, List.mem_cons, List.not_mem_nil, or_false,
      not_or] at other
    unfold member
    split
    case h_5 => rw [skipped]; rfl
    all_goals simp_all

theorem duplicate_ne_ok {α : Type} {name : String} {text : List Char}
    {result : α} : (duplicate name text : Except Fault α) ≠ .ok result := by
  intro h
  rw [← toOption_eq_some_iff, toOption_duplicate] at h
  cases h

theorem recovers_readEntry : Recovers readEntry := by
  intro text rest entry found
  obtain ⟨inner, opened, found⟩ := bind_eq_ok_iff.mp found
  obtain ⟨⟨start, left⟩, first, found⟩ := bind_eq_ok_iff.mp found
  obtain ⟨⟨duration, left'⟩, second, found⟩ := bind_eq_ok_iff.mp found
  obtain ⟨⟨line, left''⟩, third, found⟩ := bind_eq_ok_iff.mp found
  obtain ⟨_, ended, ⟨⟩⟩ := bind_eq_ok_iff.mp found
  obtain ⟨startValue, behindStart⟩ := elementAt_sound recovers_readNumber first
  obtain ⟨durationValue, behindDuration⟩ :=
    elementAt_sound recovers_readNumber second
  obtain ⟨lineValue, behindLine⟩ := elementAt_sound recovers_readString third
  exact ⟨.list [startValue, durationValue, lineValue], openList_sound opened
    (behindStart _ _ (behindDuration _ _ (behindLine _ _
      (endList_sound ended false))))⟩

/-- What stands behind the key of a member that is taken. -/
theorem taken_sound {α : Type} {read : Reader α} (h : Recovers read)
    (set : α → PartialResponse) {taken : Bool} {name : String}
    {fields : PartialResponse} {gap rest : List Char}
    (found : (if taken then duplicate name gap
      else do
        let (value, rest) ← read (← colon gap)
        return (set value, rest) : Except Fault _) = .ok (fields, rest)) :
    ∃ inner value, colon gap = .ok inner ∧
      Written (.value value) inner rest := by
  split at found
  · exact absurd found duplicate_ne_ok
  · obtain ⟨inner, hcolon, found⟩ := bind_eq_ok_iff.mp found
    obtain ⟨⟨result, left⟩, read_eq, ⟨⟩⟩ := bind_eq_ok_iff.mp found
    obtain ⟨value, written⟩ := h read_eq
    exact ⟨inner, value, hcolon, written⟩

theorem recoversAsked_member : RecoversAsked IsAsked member where
  supplied {fields fields' key gap rest} isAsked found := by
    simp only [IsAsked, List.mem_cons, List.not_mem_nil, or_false] at isAsked
    unfold member at found
    split at found
    case h_1 =>
      exact taken_sound (recovers_readList recovers_readEntry)
        (fun log => { fields with log := some log }) found
    case h_2 | h_3 =>
      exact taken_sound recovers_readNumber
        (fun delay => { fields with delay := some delay }) found
    case h_4 =>
      exact taken_sound (recovers_readOptional recovers_readNumber)
        (fun ts => { fields with ts := some ts }) found
    case h_5 => simp_all
  ignored {fields fields' key gap rest} other found := by
    simp only [IsAsked, List.mem_cons, List.not_mem_nil, or_false,
      not_or] at other
    unfold member at found
    split at found
    case h_5 =>
      obtain ⟨left, skipped, ⟨⟩⟩ := bind_eq_ok_iff.mp found
      obtain ⟨inner, hcolon, skipped⟩ := bind_eq_ok_iff.mp skipped
      exact ⟨inner, hcolon, skipValue_sound skipped⟩
    all_goals simp_all

/-! ## Objects -/

theorem readObject_listed {members : List (List Char × Value)}
    {log delay : Value} {ts : Option Value} {text rest : List Char}
    (h : HasFields (.object members) log delay ts)
    (listed : Listed IsAsked true members text rest) :
    Reads readObject text (decode? log delay ts) rest :=
  readObject_taken h (readMembers_listed decodesAsked_member listed _)

theorem readObject_sound {text rest : List Char} {response : PollResponse}
    (found : readObject text = .ok (response, rest)) :
    ∃ members log delay ts, Listed IsAsked true members text rest ∧
      HasFields (.object members) log delay ts := by
  obtain ⟨⟨fields, left⟩, taken, found⟩ := bind_eq_ok_iff.mp found
  obtain ⟨_, completed, ⟨⟩⟩ := bind_eq_ok_iff.mp found
  obtain ⟨members, listed, folded⟩ :=
    (readMembers_iff decodesAsked_member recoversAsked_member).mp taken
  rw [← toOption_eq_some_iff, complete_eq_some_iff] at completed
  -- A field that is set was taken from a single member.
  obtain ⟨hlog, hdelay, -⟩ := completed
  simp only [foldlM_step, takeFields, Option.bind_eq_bind,
    Option.bind_eq_some_iff] at folded
  obtain ⟨_, logs, _, delays, _, positions, ⟨⟩⟩ := folded
  cases hlog
  cases hdelay
  rw [takeAll_eq_some_iff] at logs delays positions
  obtain ⟨-, ⟨⟩⟩ | ⟨log, _, log_eq, -, -⟩ := logs
  obtain ⟨-, ⟨⟩⟩ | ⟨delay, _, delay_eq, -, -⟩ := delays
  obtain ⟨ts_eq, -⟩ | ⟨ts, _, ts_eq, -, -⟩ := positions
  · exact ⟨members, log, delay, none, listed, .object log_eq delay_eq ts_eq⟩
  · exact ⟨members, log, delay, some ts, listed,
      .object log_eq delay_eq ts_eq⟩

/-! ## Lists -/

theorem readElements_sound {text rest : List Char} {response : PollResponse}
    (found : readElements text = .ok (response, rest)) :
    ∃ (log delay : Value) (ts : Option Value),
      Written (.elements (log :: delay :: ts.toList)) text rest := by
  obtain ⟨⟨log, left⟩, first, found⟩ := bind_eq_ok_iff.mp found
  obtain ⟨⟨delay, left'⟩, second, found⟩ := bind_eq_ok_iff.mp found
  obtain ⟨next, next_eq, found⟩ := bind_eq_ok_iff.mp found
  obtain ⟨logValue, behindLog⟩ :=
    elementAt_sound (recovers_readList recovers_readEntry) first
  obtain ⟨delayValue, behindDelay⟩ := elementAt_sound recovers_readNumber second
  cases next with
  | none =>
      obtain ⟨_, ended, ⟨⟩⟩ := bind_eq_ok_iff.mp found
      exact ⟨logValue, delayValue, none,
        behindLog _ _ (behindDelay _ _ (endList_sound ended false))⟩
  | some element =>
      obtain ⟨⟨ts, left''⟩, third, found⟩ := bind_eq_ok_iff.mp found
      obtain ⟨_, ended, ⟨⟩⟩ := bind_eq_ok_iff.mp found
      obtain ⟨tsValue, written⟩ :=
        recovers_readOptional recovers_readNumber third
      exact ⟨logValue, delayValue, some tsValue,
        behindLog _ _ (behindDelay _ _
          (nextElement_some next_eq written (endList_sound ended false)))⟩

/-! ## Responses -/

section Responses

variable {text : List Char} {log delay : Value} {ts : Option Value}
  {response : PollResponse}

theorem Presents.readDocument (h : Presents text log delay ts) :
    (Json.readDocument PollResponse.read text).toOption =
      decode? log delay ts := by
  cases h with
  | object brace listed ends fields =>
      refine readDocument_reads ?_ ends
      unfold Reads
      simp only [PollResponse.read, brace]
      exact readObject_listed fields listed
  | list document => exact readDocument_response .list document

theorem skipBlanks_eq_nil {rest : List Char} (h : skipBlanks rest = []) :
    ∀ c ∈ rest, c ∈ blanks := by
  intro c member
  rw [← isBlank_iff]
  exact List.dropWhile_eq_nil_iff.mp h c member

theorem exists_presented
    (found : Json.readDocument PollResponse.read text = .ok response) :
    ∃ log delay ts, Presents text log delay ts := by
  obtain ⟨⟨response, rest⟩, read, found⟩ := bind_eq_ok_iff.mp found
  have ends : ∀ c ∈ rest, c ∈ blanks := by
    dsimp only at found
    split at found
    · next none_left => exact skipBlanks_eq_nil none_left
    · cases found
  unfold PollResponse.read at read
  split at read
  · cases read
  · next brace =>
      obtain ⟨members, log, delay, ts, listed, fields⟩ := readObject_sound read
      exact ⟨log, delay, ts, .object brace listed ends fields⟩
  · next bracket =>
      obtain ⟨log, delay, ts, written⟩ := readElements_sound read
      refine ⟨log, delay, ts, .list ⟨rest, Written.of_skipBlanks ?_, ends⟩⟩
      rw [bracket]
      exact .list written
  · exact absurd read wrongType_ne_ok

/-- The texts that are read as a response, and what they present. -/
theorem readDocument_eq_ok_iff :
    Json.readDocument PollResponse.read text = .ok response ↔
      ∃ log delay ts, Presents text log delay ts ∧
        decode? log delay ts = some response := by
  constructor
  · intro found
    obtain ⟨log, delay, ts, presents⟩ := exists_presented found
    refine ⟨log, delay, ts, presents, ?_⟩
    rw [← presents.readDocument, found, toOption_ok]
  · rintro ⟨log, delay, ts, presents, decoded⟩
    rw [← toOption_eq_some_iff, presents.readDocument, decoded]

end Responses

end PollResponse

end MeterWatch
