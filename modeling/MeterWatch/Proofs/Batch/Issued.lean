import MeterWatch.Proofs.Batch.Response

/-!
# Bodies that issue a cursor

A body may carry any number as its `ts`.  Whether it is accepted, and with which
cursor, depends on what the text of that number is read as.
-/

namespace MeterWatch

open Json PollResponse

/-- A body with this text as its `ts`, where all else is accepted. -/
inductive Issues (text : List Char) (entries : List Entry)
    (delay : Duration) : String → Prop where
  | intro {body : String} {value log pause : Value} {seconds : Binary64}
      (document : IsDocument value body.toList)
      (fields : HasFields value log pause (some (.number text)))
      (hlog : logOf? log = some entries) (hpause : pause.number? = some seconds)
      (hdelay : Duration.ofBinary64? seconds = some delay) :
      Issues text entries delay body

section Issues

variable {text : List Char} {entries : List Entry} {delay : Duration}
  {body : String}

theorem Issues.exists_response (h : Issues text entries delay body) :
    ∃ seconds, Duration.ofBinary64? seconds = some delay ∧
      (readDocument PollResponse.read body.toList).toOption =
        (numberOf? text).map fun ts => ⟨entries, seconds, some ts⟩ := by
  cases h with
  | @intro value log pause seconds document fields hlog hpause hdelay =>
      refine ⟨seconds, hdelay, ?_⟩
      rw [readDocument_response fields document, decode?, hlog, hpause]
      simp only [tsOf?, Value.orNull?, Value.number?, Option.elim_some]
      cases numberOf? text <;> rfl

theorem Issues.ofBody_some (h : Issues text entries delay body)
    {number : Binary64} (read : numberOf? text = some number) :
    Batch.ofBody body = .ok ⟨entries, delay, some ⟨number⟩⟩ := by
  obtain ⟨seconds, hdelay, response⟩ := h.exists_response
  rw [read] at response
  rw [Batch.ofBody_of_some response, toBatch, hdelay]
  rfl

theorem Issues.ofBody_none (h : Issues text entries delay body)
    (refused : numberOf? text = none) :
    ∃ reason, Batch.ofBody body = .error (.malformed reason) := by
  obtain ⟨seconds, -, response⟩ := h.exists_response
  rw [refused] at response
  exact Batch.ofBody_of_none response

theorem Issues.ofBody_iff (h : Issues text entries delay body)
    (number : Binary64) :
    Batch.ofBody body = .ok ⟨entries, delay, some ⟨number⟩⟩ ↔
      numberOf? text = some number := by
  constructor
  · intro accepted
    cases read : numberOf? text with
    | none =>
        obtain ⟨reason, malformed⟩ := h.ofBody_none read
        rw [malformed] at accepted
        cases accepted
    | some other =>
        rw [h.ofBody_some read] at accepted
        cases accepted
        rfl
  · exact h.ofBody_some

end Issues

/-! ## A body for every number -/

def reissuedMembers (text : List Char) : List (List Char × Value) :=
  [(['l', 'o', 'g'], .list []), (['d', 'e', 'l', 'a', 'y'], .number ['6']),
    (['t', 's'], .number text)]

def reissue (text : List Char) : List Char :=
  ['\x7b', '"', 'l', 'o', 'g', '"', ':', '[', ']', ',',
    '"', 'd', 'e', 'l', 'a', 'y', '"', ':', '6', ',',
    '"', 't', 's', '"', ':'] ++ (text ++ ['\x7d'])

theorem reissue_isDocument {text : List Char} (isNumber : IsNumber text) :
    IsDocument (.object (reissuedMembers text)) (reissue text) := by
  have six : IsWhole ['6'] := .positive ⟨by simp, by simp⟩ (by simp)
  have six_isNumber : IsNumber ['6'] :=
    .unsigned ⟨['6'], [], [], six, .none, .none, rfl⟩
  have ts : Written (.member ['t', 's'] (.number text) [])
      ('"' :: 't' :: 's' :: '"' :: ':' :: (text ++ ['\x7d'])) [] :=
    .key (spelled_plain ['t', 's'] (by simp) _)
      (.colon (.number isNumber) .lastMember)
  have delay : Written (.member ['d', 'e', 'l', 'a', 'y'] (.number ['6'])
      [(['t', 's'], .number text)])
      ('"' :: 'd' :: 'e' :: 'l' :: 'a' :: 'y' :: '"' :: ':' :: '6' :: ',' ::
        '"' :: 't' :: 's' :: '"' :: ':' :: (text ++ ['\x7d'])) [] :=
    .key (spelled_plain ['d', 'e', 'l', 'a', 'y'] (by simp) _)
      (.colon (.number six_isNumber) (.nextMember ts))
  have log : Written (.member ['l', 'o', 'g'] (.list [])
      (reissuedMembers text).tail) (reissue text).tail [] :=
    .key (spelled_plain ['l', 'o', 'g'] (by simp) _)
      (.colon (.list .noElements) (.nextMember delay))
  exact ⟨[], .object (.firstMember log), by simp⟩

theorem issues_reissue {text : List Char} (isNumber : IsNumber text) :
    Issues text [] (.ofSeconds 6) (String.ofList (reissue text)) := by
  have document := reissue_isDocument isNumber
  rw [← @String.toList_ofList (reissue text)] at document
  have fields : HasFields (.object (reissuedMembers text)) (.list [])
      (.number ['6']) (some (.number text)) :=
    .object (by rfl) (by rfl) (by rfl)
  have seconds : numberOf? ['6'] = some (.ofNat 6) := by decide +kernel
  exact .intro document fields rfl seconds (by decide +kernel)

end MeterWatch
