import MeterWatch.Proofs.Batch.Response
import MeterWatch.Proofs.Json.Range
import Mathlib.Data.List.Forall2
import Mathlib.Logic.Relation

/-!
# Responses that are accepted

An object is accepted exactly if its members fit a response: one log of
triples, one delay under either of its names, and at most one position, which
may be null.  The order of the members, the name of the delay, a position of
null and members with other names make no difference then.
-/

namespace MeterWatch

open Json

namespace PollResponse

/-! ## Members that fit -/

/-- The values of all members that have one of the names, in order. -/
def valuesNamed (names : List String) (members : List (List Char × Value)) :
    List Value :=
  (members.filter fun keyed => String.ofList keyed.1 ∈ names).map Prod.snd

def delayNames : List String := ["delay", "sleep"]

inductive IsTriple : Value → Entry → Prop where
  | intro {start duration content : List Char}
      {readStart readDuration : Binary64}
      (hstart : numberOf? start = some readStart)
      (hduration : numberOf? duration = some readDuration) :
      IsTriple (.list [.number start, .number duration, .string content])
        ⟨readStart, readDuration, String.ofList content⟩

/-- What the values of all members for the position stand for. -/
inductive IsPosition : List Value → Option Binary64 → Prop where
  | missing : IsPosition [] none
  | null : IsPosition [.null] none
  | number {literal : List Char} {seconds : Binary64}
      (h : numberOf? literal = some seconds) :
      IsPosition [.number literal] (some seconds)

/-- The members make up a response; numbers that are read are in range. -/
structure Fits (members : List (List Char × Value))
    (response : PollResponse) : Prop where
  log : ∃ elements, valuesNamed ["log"] members = [.list elements] ∧
    List.Forall₂ IsTriple elements response.log
  delay : ∃ literal, valuesNamed delayNames members = [.number literal] ∧
    numberOf? literal = some response.delay
  ts : IsPosition (valuesNamed ["ts"] members) response.ts

/-! ## Names -/

def namesOf : Field → List String
  | .log => ["log"]
  | .delay => delayNames
  | .ts => ["ts"]

theorem fieldOf?_eq_some_iff {name : String} {field : Field} :
    fieldOf? name = some field ↔ name ∈ namesOf field := by
  unfold fieldOf?
  split <;> cases field <;> simp_all [namesOf, delayNames]

theorem valuesOf_eq (field : Field) (members : List (List Char × Value)) :
    valuesOf field members = valuesNamed (namesOf field) members := by
  simp only [valuesOf, valuesNamed, fieldOf?_eq_some_iff]

/-! ## Values that are decoded -/

theorem number?_eq_some_iff {value : Value} {number : Binary64} :
    value.number? = some number ↔
      ∃ literal, value = .number literal ∧ numberOf? literal = some number := by
  cases value <;> simp [Value.number?]

theorem string?_eq_some_iff {value : Value} {line : String} :
    value.string? = some line ↔
      ∃ content, value = .string content ∧ String.ofList content = line := by
  cases value <;> simp [Value.string?]

theorem entry?_eq_some_iff {value : Value} {entry : Entry} :
    value.entry? = some entry ↔ IsTriple value entry := by
  constructor
  · intro decoded
    unfold Value.entry? at decoded
    split at decoded
    · simp only [Option.bind_eq_bind, Option.bind_eq_some_iff,
        number?_eq_some_iff, string?_eq_some_iff] at decoded
      obtain ⟨_, ⟨start, rfl, hstart⟩, _, ⟨duration, rfl, hduration⟩, _,
        ⟨content, rfl, rfl⟩, ⟨⟩⟩ := decoded
      exact .intro hstart hduration
    · cases decoded
  · rintro ⟨hstart, hduration⟩
    simp [Value.entry?, Value.number?, Value.string?, hstart, hduration]

theorem mapM_entry?_eq_some_iff {elements : List Value} {log : List Entry} :
    elements.mapM Value.entry? = some log ↔
      List.Forall₂ IsTriple elements log := by
  induction elements generalizing log with
  | nil => simp [eq_comm]
  | cons value others ih =>
      simp only [List.mapM_cons, Option.bind_eq_bind, Option.bind_eq_some_iff,
        ih, entry?_eq_some_iff]
      constructor
      · rintro ⟨entry, first, rest, more, ⟨⟩⟩
        exact .cons first more
      · rintro (_ | ⟨first, more⟩)
        exact ⟨_, first, _, more, rfl⟩

theorem logOf?_eq_some_iff {value : Value} {log : List Entry} :
    logOf? value = some log ↔
      ∃ elements, value = .list elements ∧
        List.Forall₂ IsTriple elements log := by
  cases value <;> simp [logOf?, Value.listOf?, mapM_entry?_eq_some_iff]

theorem tsOf?_eq_some_iff {value : Value} {ts : Option Binary64} :
    tsOf? value = some ts ↔ IsPosition [value] ts := by
  constructor
  · intro decoded
    cases value with
    | null =>
        cases decoded
        exact .null
    | number literal =>
        obtain ⟨seconds, read, rfl⟩ := Option.map_eq_some_iff.mp decoded
        exact .number read
    | _ => cases decoded
  · intro position
    cases position with
    | null => rfl
    | number read => simp [tsOf?, Value.orNull?, Value.number?, read]

theorem elim_tsOf?_iff {ts : Option Value} {position : Option Binary64} :
    ts.elim (some none) tsOf? = some position ↔
      IsPosition ts.toList position := by
  cases ts with
  | some value => exact tsOf?_eq_some_iff
  | none =>
      constructor
      · rintro ⟨⟩
        exact .missing
      · rintro ⟨⟩
        rfl

theorem decode?_eq_some_iff {log delay : Value} {ts : Option Value}
    {response : PollResponse} :
    decode? log delay ts = some response ↔
      (∃ elements, log = .list elements ∧
        List.Forall₂ IsTriple elements response.log) ∧
      (∃ literal, delay = .number literal ∧
        numberOf? literal = some response.delay) ∧
      IsPosition ts.toList response.ts := by
  rw [← logOf?_eq_some_iff, ← number?_eq_some_iff, ← elim_tsOf?_iff]
  simp only [decode?, Option.bind_eq_bind, Option.bind_eq_some_iff]
  constructor
  · rintro ⟨_, log_eq, _, delay_eq, _, ts_eq, ⟨⟩⟩
    exact ⟨log_eq, delay_eq, ts_eq⟩
  · rintro ⟨log_eq, delay_eq, ts_eq⟩
    exact ⟨_, log_eq, _, delay_eq, _, ts_eq, rfl⟩

/-! ## Fields that are taken -/

/-- A second value for a field is refused, whatever it is. -/
theorem takeAll_eq_some_iff {α : Type} {decode : Value → Option α}
    {values : List Value} {taken : Option α} :
    takeAll decode values none = some taken ↔
      values = [] ∧ taken = none ∨
        ∃ value found, values = [value] ∧ decode value = some found ∧
          taken = some found := by
  rcases values with _ | ⟨value, _ | ⟨second, others⟩⟩
  · simp [takeAll, eq_comm]
  · rw [takeAll_single, Option.map_eq_some_iff]
    simp [eq_comm]
  · rw [takeAll_cons, take]
    cases decode value <;> simp [takeAll_cons, take]

theorem takeAll_logOf?_iff {values : List Value} {log : List Entry} :
    takeAll logOf? values none = some (some log) ↔
      ∃ elements, values = [.list elements] ∧
        List.Forall₂ IsTriple elements log := by
  rw [takeAll_eq_some_iff]
  constructor
  · rintro (⟨-, ⟨⟩⟩ | ⟨_, _, rfl, decoded, ⟨⟩⟩)
    obtain ⟨elements, rfl, triples⟩ := logOf?_eq_some_iff.mp decoded
    exact ⟨elements, rfl, triples⟩
  · rintro ⟨elements, rfl, triples⟩
    exact .inr ⟨_, _, rfl, logOf?_eq_some_iff.mpr ⟨_, rfl, triples⟩, rfl⟩

theorem takeAll_number?_iff {values : List Value} {number : Binary64} :
    takeAll Value.number? values none = some (some number) ↔
      ∃ literal, values = [.number literal] ∧
        numberOf? literal = some number := by
  rw [takeAll_eq_some_iff]
  constructor
  · rintro (⟨-, ⟨⟩⟩ | ⟨_, _, rfl, decoded, ⟨⟩⟩)
    obtain ⟨literal, rfl, read⟩ := number?_eq_some_iff.mp decoded
    exact ⟨literal, rfl, read⟩
  · rintro ⟨literal, rfl, read⟩
    exact .inr ⟨_, _, rfl, number?_eq_some_iff.mpr ⟨_, rfl, read⟩, rfl⟩

theorem takeAll_tsOf?_iff {values : List Value} {ts : Option Binary64} :
    (∃ taken, takeAll tsOf? values none = some taken ∧
      taken.getD none = ts) ↔ IsPosition values ts := by
  simp only [takeAll_eq_some_iff]
  constructor
  · rintro ⟨_, ⟨rfl, rfl⟩ | ⟨value, found, rfl, decoded, rfl⟩, rfl⟩
    · exact .missing
    · exact tsOf?_eq_some_iff.mp decoded
  · intro position
    cases position with
    | missing => exact ⟨none, .inl ⟨rfl, rfl⟩, rfl⟩
    | null => exact ⟨some none, .inr ⟨_, _, rfl, rfl, rfl⟩, rfl⟩
    | number read =>
        exact ⟨some (some _), .inr ⟨_, _, rfl,
          tsOf?_eq_some_iff.mpr (.number read), rfl⟩, rfl⟩

/-! ## Objects -/

theorem complete_eq_some_iff {fields : PartialResponse} {rest : List Char}
    {response : PollResponse} :
    (complete fields rest).toOption = some response ↔
      fields.log = some response.log ∧ fields.delay = some response.delay ∧
        fields.ts.getD none = response.ts := by
  obtain ⟨log, delay, ts⟩ := fields
  obtain ⟨log', delay', ts'⟩ := response
  cases log <;> cases delay <;> simp [complete]

theorem takeFields_complete_iff {members : List (List Char × Value)}
    {rest : List Char} {response : PollResponse} :
    ((takeFields members ⟨none, none, none⟩).bind fun fields =>
      (complete fields rest).toOption) = some response ↔
        Fits members response := by
  simp only [takeFields, Option.bind_eq_bind, Option.bind_eq_some_iff,
    complete_eq_some_iff, valuesOf_eq, namesOf]
  constructor
  · rintro ⟨_, ⟨_, log, _, delay, ts, position, ⟨⟩⟩, rfl, rfl, position_eq⟩
    exact ⟨takeAll_logOf?_iff.mp log, takeAll_number?_iff.mp delay,
      takeAll_tsOf?_iff.mp ⟨ts, position, position_eq⟩⟩
  · rintro ⟨log, delay, position⟩
    obtain ⟨ts, taken, ts_eq⟩ := takeAll_tsOf?_iff.mpr position
    exact ⟨_, ⟨_, takeAll_logOf?_iff.mpr log, _,
      takeAll_number?_iff.mpr delay, ts, taken, rfl⟩, rfl, rfl, ts_eq⟩

theorem readDocument_object {members : List (List Char × Value)}
    {text : List Char} (document : IsDocument (.object members) text)
    (response : PollResponse) :
    (readDocument PollResponse.read text).toOption = some response ↔
      Fits members response := by
  obtain ⟨rest, written, all_blank⟩ := document
  obtain ⟨inner, text_eq, inside⟩ := written.begins
  have taken : (readMembers member ⟨none, none, none⟩ inner).toOption = _ :=
    readMembers_written decodesMember_member _ inside
  have reads : Reads PollResponse.read text
      ((takeFields members ⟨none, none, none⟩).bind fun fields =>
        (complete fields rest).toOption) rest := by
    unfold Reads
    simp only [PollResponse.read, text_eq, readObject, toOption_bind, taken,
      foldlM_step]
    cases takeFields members ⟨none, none, none⟩ with
    | none => rfl
    | some fields =>
        simp only [Option.map_some, Option.bind_some]
        cases (complete fields rest).toOption <;> rfl
  rw [readDocument_reads reads all_blank]
  exact takeFields_complete_iff

/-! ## Changes that make no difference -/

/-- One change to the members of an object. -/
inductive Rearranged : List (List Char × Value) → List (List Char × Value) →
    Prop where
  | permuted {members members' : List (List Char × Value)}
      (h : members.Perm members') : Rearranged members members'
  | renamed {before after : List (List Char × Value)} {value : Value} :
      Rearranged (before ++ ("delay".toList, value) :: after)
        (before ++ ("sleep".toList, value) :: after)
  | dropped {before after : List (List Char × Value)} :
      Rearranged (before ++ ("ts".toList, .null) :: after) (before ++ after)
  | added {before after : List (List Char × Value)} {key : List Char}
      {value : Value}
      (other : String.ofList key ∉ ["log", "delay", "sleep", "ts"]) :
      Rearranged (before ++ after) (before ++ (key, value) :: after)
  | removed {before after : List (List Char × Value)} {key : List Char}
      {value : Value}
      (other : String.ofList key ∉ ["log", "delay", "sleep", "ts"]) :
      Rearranged (before ++ (key, value) :: after) (before ++ after)

theorem valuesNamed_append (names : List String)
    (before after : List (List Char × Value)) :
    valuesNamed names (before ++ after) =
      valuesNamed names before ++ valuesNamed names after := by
  simp [valuesNamed]

theorem valuesNamed_cons (names : List String) (key : List Char)
    (value : Value) (others : List (List Char × Value)) :
    valuesNamed names ((key, value) :: others) =
      if String.ofList key ∈ names then value :: valuesNamed names others
      else valuesNamed names others := by
  unfold valuesNamed
  split <;> simp_all

theorem valuesNamed_perm (names : List String)
    {members members' : List (List Char × Value)}
    (h : members.Perm members') :
    (valuesNamed names members).Perm (valuesNamed names members') :=
  (h.filter _).map _

theorem valuesNamed_other {names : List String} {key : List Char}
    (other : String.ofList key ∉ names) (value : Value)
    (before after : List (List Char × Value)) :
    valuesNamed names (before ++ (key, value) :: after) =
      valuesNamed names (before ++ after) := by
  rw [valuesNamed_append, valuesNamed_cons, if_neg other, valuesNamed_append]

section Fits

variable {members members' : List (List Char × Value)}
  {response : PollResponse}

theorem IsPosition.length_le {values : List Value} {ts : Option Binary64}
    (h : IsPosition values ts) : values.length ≤ 1 := by
  cases h <;> simp

theorem IsPosition.perm {values values' : List Value} {ts : Option Binary64}
    (h : IsPosition values ts) (same : values.Perm values') :
    IsPosition values' ts := by
  match values, h.length_le with
  | [], _ => rwa [same.nil_eq.symm]
  | [value], _ => rwa [← List.singleton_perm.mp same]

theorem IsPosition.without_null {before after : List Value}
    {ts : Option Binary64} (h : IsPosition (before ++ .null :: after) ts) :
    IsPosition (before ++ after) ts := by
  have length_le := h.length_le
  rw [List.length_append, List.length_cons] at length_le
  have before_nil : before = [] := List.length_eq_zero_iff.mp (by omega)
  have after_nil : after = [] := List.length_eq_zero_iff.mp (by omega)
  subst before_nil after_nil
  cases h
  exact .missing

theorem Fits.congr (h : Fits members response)
    (same : ∀ field, valuesNamed (namesOf field) members' =
      valuesNamed (namesOf field) members) : Fits members' response := by
  have log_eq : valuesNamed ["log"] members' = _ := same .log
  have delay_eq : valuesNamed delayNames members' = _ := same .delay
  have ts_eq : valuesNamed ["ts"] members' = _ := same .ts
  constructor
  · rw [log_eq]
    exact h.log
  · rw [delay_eq]
    exact h.delay
  · rw [ts_eq]
    exact h.ts

theorem Fits.perm (h : Fits members response)
    (same : members.Perm members') : Fits members' response := by
  obtain ⟨⟨elements, log, triples⟩, ⟨literal, delay, read⟩, ts⟩ := h
  refine ⟨⟨elements, ?_, triples⟩, ⟨literal, ?_, read⟩,
    ts.perm (valuesNamed_perm _ same)⟩
  · exact (List.singleton_perm.mp (log ▸ valuesNamed_perm _ same)).symm
  · exact (List.singleton_perm.mp (delay ▸ valuesNamed_perm _ same)).symm

theorem Fits.rearranged (h : Fits members response)
    (change : Rearranged members members') : Fits members' response := by
  have apart {key : List Char} (field : Field)
      (other : String.ofList key ∉ ["log", "delay", "sleep", "ts"]) :
      String.ofList key ∉ namesOf field := by
    cases field <;> simp_all [namesOf, delayNames]
  cases change with
  | permuted same => exact h.perm same
  | renamed =>
      refine h.congr fun field => ?_
      rw [valuesNamed_append, valuesNamed_append, valuesNamed_cons,
        valuesNamed_cons]
      cases field <;> simp [namesOf, delayNames]
  | @dropped before after =>
      -- A position of null is the only one, so none is left without it.
      obtain ⟨log, delay, ts⟩ := h
      rw [valuesNamed_other (by simp)] at log
      rw [valuesNamed_other (by simp [delayNames])] at delay
      rw [valuesNamed_append, valuesNamed_cons, if_pos (by simp)] at ts
      have position := ts.without_null
      rw [← valuesNamed_append] at position
      exact ⟨log, delay, position⟩
  | added other =>
      exact h.congr fun field => valuesNamed_other (apart field other) _ _ _
  | removed other =>
      exact h.congr fun field =>
        (valuesNamed_other (apart field other) _ _ _).symm

theorem Fits.rearrangement (h : Fits members response)
    (changes : Relation.ReflTransGen Rearranged members members') :
    Fits members' response := by
  induction changes with
  | refl => exact h
  | tail _ change ih => exact ih.rearranged change

end Fits

/-! ## Answers -/

/-- The answer to a response that was accepted. -/
def answer (response : PollResponse) : Reply :=
  match Duration.ofBinary64? response.delay with
  | some delay => .ok {
      entries := response.log
      delay
      cursor := (response.ts.or
        (response.log.getLast?.map Entry.readStart)).map Cursor.mk }
  | none => .error (.invalidDelay response.delay)

theorem toBatch_eq (response : PollResponse) :
    response.toBatch = response.answer := by
  have cursor_eq : response.cursor = (response.ts.or
      (response.log.getLast?.map Entry.readStart)).map Cursor.mk := by
    unfold cursor
    cases response.ts <;> simp [Function.comp_def]
  cases h : Duration.ofBinary64? response.delay <;>
    simp only [toBatch, answer, h, cursor_eq]

theorem answer_not_malformed (response : PollResponse) (reason : String) :
    response.answer ≠ .error (.malformed reason) := by
  unfold answer
  split <;> simp

section Answer

variable {members : List (List Char × Value)} {body : String}
  (document : IsDocument (.object members) body.toList)

include document

theorem ofBody_of_fits {response : PollResponse} (h : Fits members response) :
    Batch.ofBody body = response.answer := by
  have accepted := (readDocument_object document response).mpr h
  rw [Batch.ofBody_of_some accepted, toBatch_eq]

theorem exists_fits (accepted : ∀ reason,
    Batch.ofBody body ≠ .error (.malformed reason)) :
    ∃ response, Fits members response := by
  cases read : (readDocument PollResponse.read body.toList).toOption with
  | none =>
      obtain ⟨reason, malformed⟩ := Batch.ofBody_of_none read
      exact absurd malformed (accepted reason)
  | some response => exact ⟨response, (readDocument_object document _).mp read⟩

end Answer

/-- Which objects are accepted, what does not change the answer, and where the
range of the numbers in them ends. -/
theorem accepted_iff {members : List (List Char × Value)} {body : String}
    (document : IsDocument (.object members) body.toList) :
    ((∀ reason, Batch.ofBody body ≠ .error (.malformed reason)) ↔
      ∃ response, Fits members response) ∧
    (∀ response, Fits members response →
      Batch.ofBody body = response.answer ∧
      ∀ members' body', Relation.ReflTransGen Rearranged members members' →
        IsDocument (.object members') (String.toList body') →
          Batch.ofBody body' = Batch.ofBody body) ∧
    ∀ literal decimal, IsNumber literal → literal.length ≤ 2000000000 →
      decimalOf? literal = some decimal →
        (decimal.value ≤ 179769313486231 * 10 ^ 294 →
          ∃ number, numberOf? literal = some number) ∧
        (179769313486232 * 10 ^ 294 ≤ decimal.value →
          numberOf? literal = none) := by
  refine ⟨⟨exists_fits document, ?_⟩, fun response fits =>
    ⟨ofBody_of_fits document fits, ?_⟩,
    fun _ _ number short stands => numberOf?_range number short stands⟩
  · rintro ⟨response, fits⟩ reason
    rw [ofBody_of_fits document fits]
    exact answer_not_malformed response reason
  · intro members' body' changes document'
    rw [ofBody_of_fits document fits,
      ofBody_of_fits document' (fits.rearrangement changes)]

/-! ### Two bodies with the same answer -/

def soleTriple : Value :=
  .list [.number ['1'], .number ['2'], .string ['a']]

def verboseMembers : List (List Char × Value) :=
  [("log".toList, .list [soleTriple]),
    (['x'], .number ['1', 'e', '9', '9', '9']),
    ("delay".toList, .number ['6']), ("ts".toList, .null)]

def verboseBody : List Char :=
  ['\x7b', '"', 'l', '\\', 'u', '0', '0', '6', 'f', 'g', '"', ':', '[', '[',
    '1', ',', '2', ',', '"', 'a', '"', ']', ']', ',', '"', 'x', '"', ':',
    '1', 'e', '9', '9', '9', ',', '"', 'd', 'e', 'l', 'a', 'y', '"', ':',
    '6', ',', '"', 't', 's', '"', ':', 'n', 'u', 'l', 'l', '\x7d']

def terseMembers : List (List Char × Value) :=
  [("sleep".toList, .number ['6']), ("log".toList, .list [soleTriple])]

def terseBody : List Char :=
  ['\x7b', '"', 's', 'l', 'e', 'e', 'p', '"', ':', '6', ',', '"', 'l', 'o',
    'g', '"', ':', '[', '[', '1', ',', '2', ',', '"', 'a', '"', ']', ']',
    '\x7d']

theorem isNumber_six : IsNumber ['6'] := isNumber_toString 6

theorem written_soleTriple (rest : List Char) :
    Written (.value (.list [soleTriple]))
      ('[' :: '[' :: '1' :: ',' :: '2' :: ',' :: '"' :: 'a' :: '"' :: ']' ::
        ']' :: rest) rest :=
  have one : IsNumber ['1'] := isNumber_toString 1
  have two : IsNumber ['2'] := isNumber_toString 2
  .list (.firstElement (.list (.firstElement (.number one)
    (.nextElement (.number two) (.nextElement
      (.string (spelled_plain ['a'] (by simp) _)) .lastElement))))
    .lastElement)

theorem isNumber_huge : IsNumber ['1', 'e', '9', '9', '9'] :=
  .unsigned ⟨['1'], [], ['e', '9', '9', '9'],
    .positive ⟨by simp, by simp⟩ (by simp), .none,
    .some (by simp) (by simp : [] ∈ _) ⟨by simp, by simp⟩, rfl⟩

theorem verboseBody_isDocument :
    IsDocument (.object verboseMembers) verboseBody := by
  have ts : Written (.member ['t', 's'] .null []) (verboseBody.drop 44) [] :=
    .key (spelled_plain ['t', 's'] (by simp) _) (.colon .null .lastMember)
  have delay : Written (.member ['d', 'e', 'l', 'a', 'y'] (.number ['6'])
      (verboseMembers.drop 3)) (verboseBody.drop 34) [] :=
    .key (spelled_plain ['d', 'e', 'l', 'a', 'y'] (by simp) _)
      (.colon (.number isNumber_six) (.nextMember ts))
  have other : Written (.member ['x'] (.number ['1', 'e', '9', '9', '9'])
      (verboseMembers.drop 2)) (verboseBody.drop 24) [] :=
    .key (spelled_plain ['x'] (by simp) _)
      (.colon (.number isNumber_huge) (.nextMember delay))
  have escaped : IsUnit 'o'.toNat (verboseBody.drop 3) (verboseBody.drop 9) :=
    .digits (by simp [isHexDigit, hexDigitValue?])
      (by simp [hexValue, hexDigitValue?])
  have key : Spelled ['l', 'o', 'g'] (verboseBody.drop 2)
      (verboseBody.drop 11) :=
    .plain (by decide) (by decide) (by decide)
      (.unit escaped (.plain (by decide) (by decide) (by decide) .close))
  exact ⟨[], .object (.firstMember (.key key
    (.colon (written_soleTriple _) (.nextMember other)))), by simp⟩

theorem terseBody_isDocument :
    IsDocument (.object terseMembers) terseBody := by
  have log : Written (.member ['l', 'o', 'g'] (.list [soleTriple]) [])
      (terseBody.drop 11) [] :=
    .key (spelled_plain ['l', 'o', 'g'] (by simp) _)
      (.colon (written_soleTriple _) .lastMember)
  exact ⟨[], .object (.firstMember (.key
    (spelled_plain ['s', 'l', 'e', 'e', 'p'] (by simp) _)
    (.colon (.number isNumber_six) (.nextMember log)))), by simp⟩

theorem rearranged_verbose :
    Relation.ReflTransGen Rearranged verboseMembers terseMembers := by
  have removed : Rearranged verboseMembers _ :=
    @Rearranged.removed [("log".toList, .list [soleTriple])] _ _ _
      (by decide : String.ofList ['x'] ∉ _)
  have dropped : Rearranged _ _ :=
    @Rearranged.dropped [("log".toList, .list [soleTriple]),
      ("delay".toList, .number ['6'])] []
  have renamed : Rearranged _ _ :=
    @Rearranged.renamed [("log".toList, .list [soleTriple])] []
      (.number ['6'])
  have swapped : Rearranged _ terseMembers := .permuted (.swap ..)
  exact (((Relation.ReflTransGen.single removed).tail dropped).tail
    renamed).tail swapped

theorem accepted_verbose_and_terse :
    let response : PollResponse :=
      ⟨[⟨.ofNat 1, .ofNat 2, "a"⟩], .ofNat 6, none⟩
    let batch : Batch :=
      ⟨[⟨.ofNat 1, .ofNat 2, "a"⟩], .ofSeconds 6, some ⟨.ofNat 1⟩⟩
    Fits verboseMembers response ∧
      Batch.ofBody (String.ofList verboseBody) = .ok batch ∧
      Batch.ofBody (String.ofList terseBody) = .ok batch ∧
      numberOf? ['1', 'e', '9', '9', '9'] = none := by
  intro response batch
  have verbose : IsDocument (.object verboseMembers)
      (String.ofList verboseBody).toList := by
    rw [String.toList_ofList]
    exact verboseBody_isDocument
  have terse : IsDocument (.object terseMembers)
      (String.ofList terseBody).toList := by
    rw [String.toList_ofList]
    exact terseBody_isDocument
  have fits : Fits verboseMembers response := by
    refine ⟨⟨[soleTriple], by rfl, .cons ?_ .nil⟩,
      ⟨['6'], by rfl, by decide +kernel⟩, .null⟩
    exact .intro (by decide +kernel) (by decide +kernel)
  obtain ⟨-, accepted, range⟩ := accepted_iff verbose
  obtain ⟨answer_eq, same⟩ := accepted response fits
  have answered : response.answer = .ok batch := by decide +kernel
  have huge : (179769313486232 * 10 ^ 294 : ℚ) ≤ Decimal.value ⟨1, 999⟩ := by
    have exceeds := le_value_of_large one_ne_zero (by decide : 309 ≤ (999 : Int))
    have place : (10 : ℚ) ^ 294 = 10 * lastPlace := pow_succ' 10 293
    have positive := lastPlace_pos
    rw [place]
    linarith only [exceeds, positive]
  refine ⟨fits, answer_eq.trans answered, ?_,
    (range _ _ isNumber_huge (by decide) (by decide +kernel)).2 huge⟩
  rw [same _ _ rearranged_verbose terse, answer_eq, answered]

/-! ### One number in two spellings -/

def positionMembers (literal : List Char) : List (List Char × Value) :=
  [("log".toList, .list []), ("delay".toList, .number ['1']),
    ("ts".toList, .number literal)]

def positionBody (literal : List Char) : List Char :=
  ['\x7b', '"', 'l', 'o', 'g', '"', ':', '[', ']', ',', '"', 'd', 'e', 'l',
    'a', 'y', '"', ':', '1', ',', '"', 't', 's', '"', ':'] ++
      (literal ++ ['\x7d'])

/-- The first digits of the greatest number, and zeros behind them. -/
def spelling (zeros : Nat) : List Char :=
  '1' :: '.' :: ("7976931348623157".toList ++ List.replicate zeros '0') ++
    ['e', '3', '0', '8']

theorem positionBody_isDocument {literal : List Char} (h : IsNumber literal) :
    IsDocument (.object (positionMembers literal)) (positionBody literal) := by
  have one : IsNumber ['1'] := isNumber_toString 1
  have ts : Written (.member ['t', 's'] (.number literal) [])
      ((positionBody literal).drop 20) [] :=
    .key (spelled_plain ['t', 's'] (by simp) _)
      (.colon (.number h) .lastMember)
  have delay : Written (.member ['d', 'e', 'l', 'a', 'y'] (.number ['1'])
      ((positionMembers literal).drop 2))
      ((positionBody literal).drop 10) [] :=
    .key (spelled_plain ['d', 'e', 'l', 'a', 'y'] (by simp) _)
      (.colon (.number one) (.nextMember ts))
  exact ⟨[], .object (.firstMember (.key
    (spelled_plain ['l', 'o', 'g'] (by simp) _)
    (.colon (.list .noElements) (.nextMember delay)))), by simp⟩

theorem isNumber_spelling (zeros : Nat) : IsNumber (spelling zeros) := by
  have leading : ∀ c ∈ "7976931348623157".toList, c.isDigit = true := by simp
  have padding : ∀ c ∈ List.replicate zeros '0', c.isDigit = true := by simp
  exact .unsigned ⟨['1'], '.' :: _, ['e', '3', '0', '8'],
    .positive ⟨by simp, by simp⟩ (by simp),
    .some ⟨by simp, List.forall_mem_append.mpr ⟨leading, padding⟩⟩,
    .some (by simp) (by simp : [] ∈ _) ⟨by simp, by simp⟩, rfl⟩

/-- Both spellings stand for the same number below the greatest one, but only
one of them is read. -/
theorem spelling_decides :
    let short := "1.7976931348623157e308".toList
    let long := "1.7976931348623157000e308".toList
    let shortBody := "\x7b\"log\":[],\"delay\":1,\"ts\":" ++
      "1.7976931348623157e308\x7d"
    let longBody := "\x7b\"log\":[],\"delay\":1,\"ts\":" ++
      "1.7976931348623157000e308\x7d"
    (∃ decimal decimal', decimalOf? short = some decimal ∧
      decimalOf? long = some decimal' ∧ decimal'.value = decimal.value ∧
      decimal'.value < Binary64.magnitude (Binary64.rankLimit - 1)) ∧
    (IsDocument (.object (positionMembers short)) shortBody.toList ∧
      Batch.ofBody shortBody =
        .ok ⟨[], .ofSeconds 1, some ⟨.ofRank false (Binary64.rankLimit - 1)⟩⟩) ∧
    IsDocument (.object (positionMembers long)) longBody.toList ∧
      Batch.ofBody longBody =
        .error (.malformed "number out of range at line 1 column 50") := by
  intro short long shortBody longBody
  have short_eq : shortBody.toList = positionBody (spelling 0) := by decide
  have long_eq : longBody.toList = positionBody (spelling 3) := by decide
  have same : Decimal.value ⟨17976931348623157000, 289⟩ =
      Decimal.value ⟨17976931348623157, 292⟩ :=
    Decimal.value_shift 17976931348623157 3 289
  have less : Decimal.value ⟨17976931348623157000, 289⟩ <
      Binary64.magnitude (Binary64.rankLimit - 1) := by
    have greatest := Binary64.midpoint_le_value_iff ⟨17976931348623157000, 289⟩
      (Binary64.rankLimit - 1) (Binary64.rankLimit - 1)
    have not_le := mt greatest.mp (by decide +kernel)
    linarith
  refine ⟨⟨_, _, by decide +kernel, by decide +kernel, same, less⟩,
    ⟨?_, by decide +kernel⟩, ?_, by decide +kernel⟩
  · rw [short_eq]
    exact positionBody_isDocument (isNumber_spelling 0)
  · rw [long_eq]
    exact positionBody_isDocument (isNumber_spelling 3)

end PollResponse

end MeterWatch
