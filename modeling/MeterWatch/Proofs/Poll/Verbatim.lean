import MeterWatch.Proofs.Batch.Accepted
import MeterWatch.Proofs.Json.Positional
import MeterWatch.Proofs.Poll.Replay

/-!
# Lines arrive verbatim

Lines that are written into a body come out of it as they are, however their
characters are spelled.  Whole seconds of up to 2^53 come with them unrounded,
and the recognised lines reach the scrollback and the listeners in order.
-/

namespace MeterWatch

open Json PollResponse

/-! ## Rows -/

/-- A line, and since when and for how many seconds it was read. -/
structure Row where
  start : Int
  duration : Int
  line : String

namespace Row

/-- The seconds have no more than 53 bits. -/
def IsExact (row : Row) : Prop :=
  row.start.natAbs ≤ Nat.pow 2 53 ∧ row.duration.natAbs ≤ Nat.pow 2 53

def value (row : Row) : Value :=
  .list [.number (toString row.start).toList,
    .number (toString row.duration).toList, .string row.line.toList]

def entry (row : Row) : Entry :=
  ⟨.ofInt row.start, .ofInt row.duration, row.line⟩

theorem IsExact.isTriple {row : Row} (h : row.IsExact) :
    IsTriple row.value row.entry := by
  have small {n : Int} (le : n.natAbs ≤ Nat.pow 2 53) :
      n.natAbs < Nat.pow 2 64 :=
    Nat.lt_of_le_of_lt le (by decide)
  have triple : IsTriple row.value ⟨.ofInt row.start, .ofInt row.duration,
      String.ofList row.line.toList⟩ :=
    .intro (numberOf?_toString (small h.1)) (numberOf?_toString (small h.2))
  rwa [String.ofList_toList] at triple

theorem logOf?_values {rows : List Row} (exact : ∀ row ∈ rows, row.IsExact) :
    logOf? (.list (rows.map value)) = some (rows.map entry) := by
  refine logOf?_eq_some_iff.mpr ⟨_, rfl, ?_⟩
  rw [List.forall₂_map_left_iff, List.forall₂_map_right_iff,
    List.forall₂_same]
  exact fun row member => (exact row member).isTriple

theorem map_line (rows : List Row) :
    (rows.map entry).map Entry.line = rows.map line := by
  simp [entry]

end Row

/-! ## Bodies of rows -/

/-- A body with these rows as its log, where all else is accepted. -/
structure Holds (rows : List Row) (delay : Duration) (body : String) :
    Prop where
  exact : ∀ row ∈ rows, row.IsExact
  written : ∃ value pause ts seconds position,
    IsDocument value body.toList ∧
      HasFields value (.list (rows.map Row.value)) (.number pause) ts ∧
      numberOf? pause = some seconds ∧
      Duration.ofBinary64? seconds = some delay ∧
      IsPosition ts.toList position

theorem Holds.exists_batch {rows : List Row} {delay : Duration} {body : String}
    (h : Holds rows delay body) :
    ∃ batch, Batch.ofBody body = .ok batch ∧
      batch.entries = rows.map Row.entry ∧ batch.delay = delay := by
  obtain ⟨exact, value, pause, ts, seconds, position, document, fields, read,
    valid, hts⟩ := h
  have decoded : decode? (.list (rows.map Row.value)) (.number pause) ts =
      some ⟨rows.map Row.entry, seconds, position⟩ := by
    simp [decode?, Row.logOf?_values exact, Value.number?, read, elim_tsOf?_iff.mpr hts]
  have response := readDocument_response fields document
  rw [decoded] at response
  rw [Batch.ofBody_of_some response, toBatch, valid]
  exact ⟨_, rfl, rfl, rfl⟩

/-! ## Lines that are sent -/

namespace Session

/--
The rows of a body become the entries of its batch with their lines as they
are and their seconds unrounded.  The recognised lines come to the front of the
scrollback, the newest first, and are sent in order.
-/
theorem lines_arrive_verbatim {rows : List Row} {delay : Duration}
    {body : String} (h : Holds rows delay body) :
    ∃ batch, Batch.ofBody body = .ok batch ∧ batch.delay = delay ∧
      batch.entries = rows.map Row.entry ∧
      (∀ row ∈ rows,
        row.entry.readStart.exactValue? =
            some (WithBot.some (WithTop.some
              (row.start * Binary64.unitsPerOne))) ∧
          row.entry.readDuration.exactValue? =
            some (WithBot.some (WithTop.some
              (row.duration * Binary64.unitsPerOne)))) ∧
      ∀ session : Session, session.logView = true →
        let known := (rows.map Row.line).filter Line.isRecognised
        (session.applyBatch batch).dashboard.scrollback =
            known.reverse ++ session.dashboard.scrollback ∧
          (Emission.events (session.batchEmissions batch)).filterMap
            Event.scrolled? = known := by
  obtain ⟨batch, accepted, entries, hdelay⟩ := h.exists_batch
  have lines : batch.lines = rows.map Row.line := by
    rw [Batch.lines, entries, Row.map_line]
  refine ⟨batch, accepted, hdelay, entries, fun row member => ?_,
    fun session logView => ?_⟩
  · obtain ⟨start, duration⟩ := h.exact row member
    rw [Row.entry, Binary64.exactValue?_ofInt start,
      Binary64.exactValue?_ofInt duration]
    exact ⟨rfl, rfl⟩
  · constructor
    · rw [applyBatch_dashboard, logView, lines]
      rfl
    · rw [events_batchEmissions, batchEvents, ← Batch.lines,
        scrolled_linesEvents, logView, lines]
      rfl

/-! ### Every kind of escape -/

def escapedLine : String := "<time>1</time>\"\\\n😀"

def escapedText : List Char :=
  ['<', 't', 'i', 'm', 'e', '>', '1', '<', '\\', '/', 't', 'i', 'm', 'e',
    '>', '\\', '"', '\\', 'u', '0', '0', '5', 'c', '\\', 'n',
    '\\', 'u', 'd', '8', '3', 'd', '\\', 'u', 'D', 'E', '0', '0', '"']

theorem spelled_escapedLine (rest : List Char) :
    Spelled escapedLine.toList (escapedText ++ rest) rest := by
  have leading (text : List Char) : IsUnit (0xD800 + 0x3D)
      ('\\' :: 'u' :: 'd' :: '8' :: '3' :: 'd' :: text) text :=
    .digits (by simp [isHexDigit, hexDigitValue?])
      (by simp [hexValue, hexDigitValue?])
  have trailing (text : List Char) : IsUnit (0xDC00 + 0x200)
      ('\\' :: 'u' :: 'D' :: 'E' :: '0' :: '0' :: text) text :=
    .digits (by simp [isHexDigit, hexDigitValue?])
      (by simp [hexValue, hexDigitValue?])
  have smile : Spelled ['😀'] _ rest :=
    .pair (leading _) (trailing _) (by decide) (by decide) (by decide) .close
  have backslash : Spelled ['\\', '\n', '😀'] ('\\' :: 'u' :: '0' :: '0' ::
      '5' :: 'c' :: '\\' :: 'n' :: _) rest :=
    .unit (.digits (by simp [isHexDigit, hexDigitValue?])
      (by simp [hexValue, hexDigitValue?])) (.short (by decide) smile)
  have quote : Spelled ['"', '\\', '\n', '😀'] ('\\' :: '"' :: _) rest :=
    .short (by decide) backslash
  have slash : Spelled ('/' :: _) ('\\' :: '/' :: _) rest :=
    .short (by decide)
      (quote.plainly ['t', 'i', 'm', 'e', '>'] (by simp))
  exact slash.plainly ['<', 't', 'i', 'm', 'e', '>', '1', '<'] (by simp)

def escapedRow : Row := ⟨-9007199254740992, 2, escapedLine⟩

def escapedBody : List Char :=
  ['\x7b', '"', 'l', 'o', 'g', '"', ':', '[', '['] ++
    ((toString escapedRow.start).toList ++
      ',' :: ((toString escapedRow.duration).toList ++
        ',' :: '"' :: (escapedText ++
          [']', ']', ',', '"', 's', 'l', 'e', 'e', 'p', '"', ':', '6',
            '\x7d'])))

theorem holds_escapedBody :
    Holds [escapedRow] (.ofSeconds 6) (String.ofList escapedBody) := by
  have six : IsNumber ['6'] := isNumber_toString 6
  have row : Written (.value escapedRow.value) (escapedBody.drop 8)
      (']' :: ',' :: '"' :: 's' :: 'l' :: 'e' :: 'e' :: 'p' :: '"' :: ':' ::
        '6' :: ['\x7d']) :=
    .list (.firstElement (.number (isNumber_toString escapedRow.start))
      (.nextElement (.number (isNumber_toString escapedRow.duration))
        (.nextElement (.string (spelled_escapedLine _)) .lastElement)))
  have delay : Written (.member ['s', 'l', 'e', 'e', 'p'] (.number ['6']) [])
      ['"', 's', 'l', 'e', 'e', 'p', '"', ':', '6', '\x7d'] [] :=
    .key (spelled_plain ['s', 'l', 'e', 'e', 'p'] (by simp) _)
      (.colon (.number six) .lastMember)
  have log : Written (.member ['l', 'o', 'g'] (.list [escapedRow.value])
      [(['s', 'l', 'e', 'e', 'p'], .number ['6'])]) escapedBody.tail [] :=
    .key (spelled_plain ['l', 'o', 'g'] (by simp) _)
      (.colon (.list (.firstElement row .lastElement)) (.nextMember delay))
  have document : IsDocument (.object
      [(['l', 'o', 'g'], .list [escapedRow.value]),
        (['s', 'l', 'e', 'e', 'p'], .number ['6'])])
      (String.ofList escapedBody).toList := by
    rw [String.toList_ofList]
    exact ⟨[], .object (.firstMember log), by simp⟩
  exact ⟨by simp [Row.IsExact, escapedRow],
    _, ['6'], none, .ofNat 6, none, document,
    .object (by rfl) (by rfl) (by rfl), by decide +kernel, by decide +kernel,
    .missing⟩

theorem escaped_line_arrives :
    Holds [escapedRow] (.ofSeconds 6) (String.ofList escapedBody) ∧
      ∃ batch, Batch.ofBody (String.ofList escapedBody) = .ok batch ∧
        batch.entries = [escapedRow.entry] ∧
        ((Session.new (.new .utc) none true).applyBatch
          batch).dashboard.scrollback = [escapedLine] := by
  obtain ⟨batch, accepted, -, entries, -, shown⟩ :=
    lines_arrive_verbatim holds_escapedBody
  obtain ⟨scrollback, -⟩ := shown (.new (.new .utc) none true) rfl
  refine ⟨holds_escapedBody, batch, accepted, entries, scrollback.trans ?_⟩
  decide +kernel

end Session

end MeterWatch
