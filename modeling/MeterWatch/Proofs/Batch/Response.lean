import MeterWatch.Batch.Body
import MeterWatch.Proofs.Json.Decoding

/-!
# Responses as values

A poll response is decoded field by field from the values of its members, in
whatever order they come and however they are written.  Members with other names
do not matter.
-/

namespace MeterWatch

open Json

/-! ## Entries -/

def Json.Value.entry? : Value → Option Entry
  | .list [readStart, readDuration, line] => do
      return ⟨← readStart.number?, ← readDuration.number?, ← line.string?⟩
  | _ => none

private def triple : String := "a tuple of size 3"

private theorem readEntry_opened {text inner : List Char}
    (opened : openList triple text = .ok inner) :
    (readEntry text).toOption =
      (elementAt triple 0 readNumber inner).toOption.bind fun start =>
        (elementAt triple 1 readNumber start.2).toOption.bind fun duration =>
          (elementAt triple 2 readString duration.2).toOption.bind fun line =>
            (endList line.2).toOption.bind fun rest =>
              some (⟨start.1, duration.1, line.1⟩, rest) := by
  change (openList triple text >>= fun _ => _).toOption = _
  rw [opened, ok_bind]
  simp only [toOption_bind]
  rfl

private theorem readEntry_end (entry : Entry) (others : List Value)
    {text rest : List Char} (more : Written (.moreElements others) text rest) :
    ((endList text).toOption.bind fun rest => some (entry, rest)) =
      (if others.isEmpty then some entry else none).map (·, rest) := by
  cases others with
  | nil =>
      obtain ⟨-, ended⟩ :
          nextElement false text = .ok none ∧ endList text = .ok rest :=
        nextElement_nil more
      simp [ended]
  | cons value others => simp [endList_more more]

/-- Elements are taken in turn; too few or too many of them are refused. -/
theorem decodes_readEntry : Decodes readEntry Value.entry? := by
  intro value text rest written ends
  by_cases isList : ∃ elements, value = .list elements
  · obtain ⟨elements, rfl⟩ := isList
    obtain ⟨inner, opened, inside⟩ := openList_list triple written
    unfold Reads
    rw [readEntry_opened opened,
      elementAt_bind decodes_readNumber triple 0 inside fun start _ _ more =>
        elementAt_bind decodes_readNumber triple 1 more fun duration _ _ more =>
          elementAt_bind decodes_readString triple 2 more
            fun line others _ more =>
              readEntry_end ⟨start, duration, line⟩ others more]
    congr 1
    rcases elements with _ | ⟨start, _ | ⟨duration, _ | ⟨line, _ | _⟩⟩⟩ <;>
      simp [Value.entry?]
  · rw [not_exists] at isList
    have refused := openList_other triple written isList
    unfold Reads
    change (openList triple text >>= fun _ => _).toOption = _
    rw [toOption_bind, refused]
    cases value with
    | list elements => exact absurd rfl (isList elements)
    | _ => rfl

/-! ## Members -/

namespace PollResponse

def logOf? : Value → Option (List Entry) := Value.listOf? Value.entry?

def tsOf? : Value → Option (Option Binary64) := Value.orNull? Value.number?

inductive Field where
  | log
  | delay
  | ts
  deriving DecidableEq

def fieldOf? : String → Option Field
  | "log" => some .log
  | "delay" | "sleep" => some .delay
  | "ts" => some .ts
  | _ => none

def take {α : Type} (decode : Value → Option α) (value : Value)
    (taken : Option α) : Option (Option α) :=
  if taken.isSome then none else (decode value).map some

def step (fields : PartialResponse) (keyed : List Char × Value) :
    Option PartialResponse :=
  match fieldOf? (String.ofList keyed.1) with
  | some .log =>
      (take logOf? keyed.2 fields.log).map fun log => { fields with log }
  | some .delay =>
      (take Value.number? keyed.2 fields.delay).map fun delay =>
        { fields with delay }
  | some .ts => (take tsOf? keyed.2 fields.ts).map fun ts => { fields with ts }
  | none => some fields

theorem take_reads {α : Type} {read : Reader α} {decode : Value → Option α}
    (h : Decodes read decode) (name : String) (taken : Option α)
    (set : Option α → PartialResponse) {value : Value}
    {text inner rest : List Char} (hcolon : colon text = .ok inner)
    (written : Written (.value value) inner rest) (ends : EndsNumber rest) :
    (if taken.isSome then duplicate name text
      else do
        let (value, rest) ← read (← colon text)
        return (set (some value), rest) : Except Fault _).toOption =
      ((take decode value taken).map set).map (·, rest) := by
  have read_eq : (read inner).toOption = _ := h written ends
  unfold take
  split
  · rw [toOption_duplicate]
    rfl
  · rw [hcolon, ok_bind, toOption_bind, read_eq]
    cases decode value <;> rfl

theorem decodesMember_member : DecodesMember member step := by
  intro fields key value text inner rest hcolon written ends
  unfold Reads member
  split
  case h_1 name_eq =>
    have step_eq : step fields (key, value) =
        (take logOf? value fields.log).map fun log => { fields with log } := by
      simp [step, fieldOf?, name_eq]
    rw [step_eq]
    exact take_reads (decodes_readList decodes_readEntry) "log" fields.log
      (fun log => { fields with log }) hcolon written ends
  case h_2 name_eq | h_3 name_eq =>
    have step_eq : step fields (key, value) =
        (take Value.number? value fields.delay).map fun delay =>
          { fields with delay } := by
      simp [step, fieldOf?, name_eq]
    rw [step_eq]
    exact take_reads decodes_readNumber "delay" fields.delay
      (fun delay => { fields with delay }) hcolon written ends
  case h_4 name_eq =>
    have step_eq : step fields (key, value) =
        (take tsOf? value fields.ts).map fun ts => { fields with ts } := by
      simp [step, fieldOf?, name_eq]
    rw [step_eq]
    exact take_reads (decodes_readOptional decodes_readNumber) "ts" fields.ts
      (fun ts => { fields with ts }) hcolon written ends
  case h_5 not_log not_delay not_sleep not_ts =>
    have step_eq : step fields (key, value) = some fields := by
      simp [step, fieldOf?]
    rw [step_eq, skipMember_written hcolon written ends]
    rfl

/-! ## Fields -/

/-- The values of the members for a field, in order. -/
def valuesOf (field : Field) (members : List (List Char × Value)) :
    List Value :=
  (members.filter fun keyed =>
    fieldOf? (String.ofList keyed.1) = some field).map Prod.snd

theorem valuesOf_cons (field : Field) (key : List Char) (value : Value)
    (others : List (List Char × Value)) :
    valuesOf field ((key, value) :: others) =
      if fieldOf? (String.ofList key) = some field then
        value :: valuesOf field others
      else valuesOf field others := by
  unfold valuesOf
  split <;> simp_all

def takeAll {α : Type} (decode : Value → Option α) (values : List Value)
    (taken : Option α) : Option (Option α) :=
  values.foldlM (fun taken value => take decode value taken) taken

def takeFields (members : List (List Char × Value))
    (fields : PartialResponse) : Option PartialResponse := do
  return {
    log := ← takeAll logOf? (valuesOf .log members) fields.log
    delay := ← takeAll Value.number? (valuesOf .delay members) fields.delay
    ts := ← takeAll tsOf? (valuesOf .ts members) fields.ts }

theorem takeAll_cons {α : Type} (decode : Value → Option α) (value : Value)
    (others : List Value) (taken : Option α) :
    takeAll decode (value :: others) taken =
      (take decode value taken).bind (takeAll decode others) := rfl

/-- The members for one field do not disturb those for another. -/
theorem foldlM_step (members : List (List Char × Value))
    (fields : PartialResponse) :
    members.foldlM step fields = takeFields members fields := by
  induction members generalizing fields with
  | nil => rfl
  | cons keyed others ih =>
      obtain ⟨key, value⟩ := keyed
      have others_eq : (fun fields => others.foldlM step fields) =
          takeFields others := funext ih
      rw [List.foldlM_cons, others_eq]
      simp only [step, takeFields, valuesOf_cons]
      cases field : fieldOf? (String.ofList key) with
      | none => simp [takeFields]
      | some name =>
          cases name with
          | log =>
              simp only [if_true, takeAll_cons]
              cases take logOf? value fields.log <;> simp [takeFields]
          | delay =>
              simp only [if_true, takeAll_cons]
              cases take Value.number? value fields.delay <;>
                simp [takeFields]
          | ts =>
              simp only [if_true, takeAll_cons]
              cases take tsOf? value fields.ts <;> simp [takeFields]

/-! ## Responses -/

/-- A value with the fields of a response, as an object or as a list. -/
inductive HasFields : Value → Value → Value → Option Value → Prop where
  | object {members : List (List Char × Value)} {log delay : Value}
      {ts : Option Value} (hlog : valuesOf .log members = [log])
      (hdelay : valuesOf .delay members = [delay])
      (hts : valuesOf .ts members = ts.toList) :
      HasFields (.object members) log delay ts
  | list {log delay : Value} {ts : Option Value} :
      HasFields (.list (log :: delay :: ts.toList)) log delay ts

def decode? (log delay : Value) (ts : Option Value) : Option PollResponse := do
  let log ← logOf? log
  let delay ← delay.number?
  let ts ← ts.elim (some none) tsOf?
  return { log, delay, ts }

theorem takeAll_single {α : Type} (decode : Value → Option α) (value : Value) :
    takeAll decode [value] none = (decode value).map some := by
  rw [takeAll_cons]
  simp only [take, Option.isSome_none, Bool.false_eq_true, if_false]
  cases decode value <;> rfl

theorem readObject_taken {members : List (List Char × Value)}
    {log delay : Value} {ts : Option Value} {text rest : List Char}
    (h : HasFields (.object members) log delay ts)
    (taken : Reads (readMembers member ⟨none, none, none⟩) text
      (members.foldlM step ⟨none, none, none⟩) rest) :
    Reads readObject text (decode? log delay ts) rest := by
  cases h with
  | object hlog hdelay hts =>
      unfold Reads at *
      simp only [readObject, toOption_bind, taken, foldlM_step, takeFields,
        hlog, hdelay, hts, takeAll_single, decode?]
      cases logOf? log with
      | none => rfl
      | some log =>
      cases delay.number? with
      | none => rfl
      | some delay =>
      cases ts with
      | none => rfl
      | some ts =>
          simp only [Option.toList_some, takeAll_single, Option.elim_some]
          cases tsOf? ts <;> rfl

theorem readObject_reads {members : List (List Char × Value)}
    {log delay : Value} {ts : Option Value} {text rest : List Char}
    (h : HasFields (.object members) log delay ts)
    (written : Written (.members members) text rest) :
    Reads readObject text (decode? log delay ts) rest :=
  readObject_taken h (readMembers_written decodesMember_member _ written)

theorem readElements_reads {log delay : Value} {ts : Option Value}
    {text rest : List Char}
    (written : Written (.elements (log :: delay :: ts.toList)) text rest) :
    Reads readElements text (decode? log delay ts) rest := by
  obtain ⟨middle, more, log_eq⟩ :=
    elementAt_cons (decodes_readList decodes_readEntry)
      "struct PollResponse with 3 elements" 0 written
  obtain ⟨middle', more', delay_eq⟩ :=
    elementAt_cons decodes_readNumber "struct PollResponse with 3 elements" 1
      more
  unfold Reads at *
  simp only [readElements, toOption_bind, log_eq, decode?, logOf?]
  cases log.listOf? Value.entry? with
  | none => rfl
  | some log =>
  simp only [Option.map_some, Option.bind_some, delay_eq]
  cases delay.number? with
  | none => rfl
  | some delay =>
  cases ts with
  | none =>
      obtain ⟨next, ended⟩ : nextElement false middle' = .ok none ∧
        endList middle' = .ok rest := nextElement_nil more'
      simp [next, ended]
  | some ts =>
      obtain ⟨element, middle'', next, here, more''⟩ :
          ∃ element middle'', nextElement false middle' = .ok (some element) ∧
            Written (.value ts) element middle'' ∧
            Written (.moreElements []) middle'' rest := nextElement_cons more'
      obtain ⟨-, ended⟩ : nextElement false middle'' = .ok none ∧
        endList middle'' = .ok rest := nextElement_nil more''
      have ts_eq : (readOptional readNumber element).toOption = _ :=
        decodes_readOptional decodes_readNumber here more''.moreElements_ends
      simp only [Option.map_some, Option.bind_some, next, toOption_ok,
        toOption_bind, ts_eq, Option.elim_some, tsOf?]
      cases ts.orNull? Value.number? with
      | none => rfl
      | some ts => simp [ended]

theorem read_reads {value log delay : Value} {ts : Option Value}
    {text rest : List Char} (h : HasFields value log delay ts)
    (written : Written (.value value) text rest) :
    Reads PollResponse.read text (decode? log delay ts) rest := by
  cases h with
  | @object members _ _ _ hlog hdelay hts =>
      obtain ⟨inner, text_eq, inside⟩ := written.begins
      unfold Reads
      simp only [PollResponse.read, text_eq]
      exact readObject_reads (.object hlog hdelay hts) inside
  | list =>
      obtain ⟨inner, text_eq, inside⟩ := written.begins
      unfold Reads
      simp only [PollResponse.read, text_eq]
      exact readElements_reads inside

theorem readDocument_response {value log delay : Value} {ts : Option Value}
    {text : List Char} (h : HasFields value log delay ts)
    (document : IsDocument value text) :
    (readDocument PollResponse.read text).toOption = decode? log delay ts := by
  obtain ⟨rest, written, all_blank⟩ := document
  exact readDocument_reads (read_reads h written) all_blank

end PollResponse

/-! ## Bodies -/

theorem Batch.ofBody_of_some {body : String} {response : PollResponse}
    (h : (readDocument PollResponse.read body.toList).toOption =
      some response) : Batch.ofBody body = response.toBatch := by
  rw [toOption_eq_some_iff] at h
  simp [Batch.ofBody, h]

theorem Batch.ofBody_of_none {body : String}
    (h : (readDocument PollResponse.read body.toList).toOption = none) :
    ∃ reason, Batch.ofBody body = .error (.malformed reason) := by
  obtain ⟨fault, refused⟩ := toOption_eq_none_iff.mp h
  refine ⟨fault.message body.toList, ?_⟩
  simp [Batch.ofBody, refused]

end MeterWatch
