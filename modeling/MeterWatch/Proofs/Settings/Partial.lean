import MeterWatch.Proofs.Settings.Fields
import MeterWatch.Settings.OfToml

/-!
# Partial settings

A settings file may hold any of the fields, in any order and among anything
else.  The fields that it holds are what it spells, and all others have their
defaults.
-/

namespace MeterWatch

open Toml

/-! ## Spellings of values -/

/-- A string between quotes, with any of the escapes. -/
def SpellsString (content : String) (text : List Char) : Prop :=
  ∃ inner, IsBasic content.toList inner ∧ text = '"' :: inner

def SpellsNat (n : Nat) (text : List Char) : Prop :=
  n < 0x8000000000000000 ∧ text = (toString n).toList

def SpellsBool (value : Bool) (text : List Char) : Prop :=
  text = (toString value).toList

/-- A whole number, or the shortest decimal of a number. -/
inductive SpellsNumber : Binary64 → List Char → Prop where
  | integer {n : Int} (h : IsInt64 n) :
      SpellsNumber (.ofInt n) (toString n).toList
  | real {number : Binary64} {text : List Char} (h : IsReal number text) :
      SpellsNumber number text

/-- A number that is not whole may be written as it is displayed. -/
theorem SpellsNumber.plain {number : Binary64}
    (finite : number.isFinite = true) (broken : ¬ IsWholeNumber number) :
    SpellsNumber number number.plain.toList :=
  .real (isReal_plain finite broken)

namespace Settings

def Spells (settings : Settings) (text : List Char) : Field → Prop
  | .baseUrl => SpellsString settings.server.baseUrl text
  | .timeoutSeconds => SpellsNat settings.server.timeoutSeconds text
  | .initialCursor => ∃ number,
      settings.server.initialCursor = some number ∧ SpellsNumber number text
  | .logView => SpellsBool settings.display.logView text
  | .utcClock => SpellsBool settings.display.utcClock text
  | .chartsEnabled => SpellsBool settings.charts.enabled text
  | .queryUrl => ∃ url,
      settings.charts.queryUrl = some url ∧ SpellsString url text
  | .refreshSeconds => SpellsNat settings.charts.refreshSeconds text
  | .level => SpellsString settings.logging.level text
  | .showReadings => SpellsBool settings.logging.showReadings text

/-- Settings with only some of their fields, and defaults for the others. -/
def keep (settings : Settings) (fields : List Field) : Settings :=
  let pick {α : Type} (field : Field) (get : Settings → α) : α :=
    if field ∈ fields then get settings else get default
  { server :=
      { baseUrl := pick .baseUrl (·.server.baseUrl)
        timeoutSeconds := pick .timeoutSeconds (·.server.timeoutSeconds)
        initialCursor := pick .initialCursor (·.server.initialCursor) }
    display :=
      { logView := pick .logView (·.display.logView)
        utcClock := pick .utcClock (·.display.utcClock) }
    charts :=
      { enabled := pick .chartsEnabled (·.charts.enabled)
        queryUrl := pick .queryUrl (·.charts.queryUrl)
        refreshSeconds := pick .refreshSeconds (·.charts.refreshSeconds) }
    logging :=
      { level := pick .level (·.logging.level)
        showReadings := pick .showReadings (·.logging.showReadings) } }

/-- A value that a field of settings is read from. -/
def Holds (settings : Settings) (value : Value) : Field → Prop
  | .baseUrl => asString? value = some settings.server.baseUrl
  | .timeoutSeconds => asNat? value = some settings.server.timeoutSeconds
  | .initialCursor =>
      some <$> asNumber? value = some settings.server.initialCursor
  | .logView => asBool? value = some settings.display.logView
  | .utcClock => asBool? value = some settings.display.utcClock
  | .chartsEnabled => asBool? value = some settings.charts.enabled
  | .queryUrl => some <$> asString? value = some settings.charts.queryUrl
  | .refreshSeconds => asNat? value = some settings.charts.refreshSeconds
  | .level => asString? value = some settings.logging.level
  | .showReadings => asBool? value = some settings.logging.showReadings

end Settings

theorem SpellsString.reads {content : String} {text : List Char}
    (h : SpellsString content text) :
    ∃ found, value text = some (found, []) ∧
      asString? found = some content := by
  obtain ⟨inner, basic, rfl⟩ := h
  exact ⟨_, basic.value, congrArg some String.ofList_toList⟩

theorem SpellsNat.reads {n : Nat} {text : List Char} (h : SpellsNat n text) :
    ∃ found, value text = some (found, []) ∧ asNat? found = some n := by
  obtain ⟨below, rfl⟩ := h
  refine ⟨.integer n, @value_integer n ⟨by omega, by omega⟩, ?_⟩
  rw [asNat?, if_pos (by omega)]
  rfl

theorem SpellsBool.reads {flag : Bool} {text : List Char}
    (h : SpellsBool flag text) :
    ∃ found, value text = some (found, []) ∧ asBool? found = some flag := by
  obtain rfl := h
  cases flag <;> exact ⟨.boolean _, by rfl, rfl⟩

theorem SpellsNumber.reads {number : Binary64} {text : List Char}
    (h : SpellsNumber number text) :
    ∃ found, value text = some (found, []) ∧ asNumber? found = some number := by
  cases h with
  | integer h => exact ⟨_, value_integer h, rfl⟩
  | real h => exact ⟨_, h.value, rfl⟩

theorem Settings.Spells.reads {settings : Settings} {field : Field}
    {text : List Char} (h : settings.Spells text field) :
    ∃ found, value text = some (found, []) ∧ settings.Holds found field := by
  cases field with
  | baseUrl | level => exact SpellsString.reads h
  | timeoutSeconds | refreshSeconds => exact SpellsNat.reads h
  | logView | utcClock | chartsEnabled | showReadings =>
      exact SpellsBool.reads h
  | initialCursor =>
      obtain ⟨number, is_set, spells⟩ := h
      obtain ⟨found, read, holds⟩ := spells.reads
      refine ⟨found, read, ?_⟩
      rw [Holds, holds, is_set]
      rfl
  | queryUrl =>
      obtain ⟨url, is_set, spells⟩ := h
      obtain ⟨found, read, holds⟩ := spells.reads
      refine ⟨found, read, ?_⟩
      rw [Holds, holds, is_set]
      rfl

/-! ## Reading settings -/

/-- A part that is not there reads as one without fields. -/
theorem Beside.read_part {written : Field → Option Value} {root bare : Entries}
    (h : Beside written root bare) (part : Part) {α : Type}
    {read? : Value → Option α} {default : α}
    (empty : read? (.table .header []) = some default) :
    ∃ kind inner others, Completes part written inner others ∧
      orDefault read? default (root.lookup part.key) =
        read? (.table kind inner) := by
  obtain ⟨kind?, inner, others, held, -, completes⟩ := h.parts part
  unfold heldAt at held
  split at held
  · next absent =>
      cases held
      rw [absent]
      exact ⟨.header, [], others, completes, empty.symm⟩
  · next kind inner found =>
      cases held
      rw [found]
      exact ⟨kind, inner, others, completes, rfl⟩
  · cases held

/-- A field that is written is what it holds, and else its default. -/
theorem Completes.orDefault {part : Part} {fields : List Field}
    {written : Field → Option Value} {inner others : Entries}
    (h : Completes part written inner others)
    (kept : ∀ field, field ∈ fields ↔ (written field).isSome = true)
    (field : Field) (within : field.part = part) {α : Type}
    {read? : Value → Option α} {given default : α}
    (holds : ∀ value, written field = some value → read? value = some given) :
    MeterWatch.orDefault read? default (inner.lookup field.key) =
      some (if field ∈ fields then given else default) := by
  rw [h.fields field within]
  cases found : written field with
  | none =>
      have absent : field ∉ fields := fun member => by
        rw [kept, found] at member
        cases member
      rw [if_neg absent]
      rfl
  | some value =>
      have present : field ∈ fields := (kept field).mpr (by rw [found]; rfl)
      rw [if_pos present]
      exact holds value found

section

variable {settings : Settings} {fields : List Field}
  {written : Field → Option Value} {root bare : Entries}
  (h : Beside written root bare)
  (kept : ∀ field, field ∈ fields ↔ (written field).isSome = true)
  (holds : ∀ field value, written field = some value →
    settings.Holds value field)

include h kept holds

theorem Beside.server :
    orDefault ServerSettings.ofValue? .default (root.lookup Part.server.key) =
      some (settings.keep fields).server := by
  obtain ⟨kind, inner, others, completes, read⟩ := h.read_part .server
    (show ServerSettings.ofValue? _ = some .default from rfl)
  rw [read]
  change (do
    return ServerSettings.mk
      (← orDefault asString? _ (inner.lookup Field.baseUrl.key))
      (← orDefault asNat? _ (inner.lookup Field.timeoutSeconds.key))
      (← orDefault (fun value => some <$> asNumber? value) _
        (inner.lookup Field.initialCursor.key))) = _
  rw [completes.orDefault kept .baseUrl rfl (holds .baseUrl),
    completes.orDefault kept .timeoutSeconds rfl (holds .timeoutSeconds),
    completes.orDefault kept .initialCursor rfl (holds .initialCursor)]
  rfl

theorem Beside.display :
    orDefault DisplaySettings.ofValue? .default (root.lookup Part.display.key) =
      some (settings.keep fields).display := by
  obtain ⟨kind, inner, others, completes, read⟩ := h.read_part .display
    (show DisplaySettings.ofValue? _ = some .default from rfl)
  rw [read]
  change (do
    return DisplaySettings.mk
      (← orDefault asBool? _ (inner.lookup Field.logView.key))
      (← orDefault asBool? _ (inner.lookup Field.utcClock.key))) = _
  rw [completes.orDefault kept .logView rfl (holds .logView),
    completes.orDefault kept .utcClock rfl (holds .utcClock)]
  rfl

theorem Beside.charts :
    orDefault ChartSettings.ofValue? .default (root.lookup Part.charts.key) =
      some (settings.keep fields).charts := by
  obtain ⟨kind, inner, others, completes, read⟩ := h.read_part .charts
    (show ChartSettings.ofValue? _ = some .default from rfl)
  rw [read]
  change (do
    return ChartSettings.mk
      (← orDefault asBool? _ (inner.lookup Field.chartsEnabled.key))
      (← orDefault (fun value => some <$> asString? value) _
        (inner.lookup Field.queryUrl.key))
      (← orDefault asNat? _ (inner.lookup Field.refreshSeconds.key))) = _
  rw [completes.orDefault kept .chartsEnabled rfl (holds .chartsEnabled),
    completes.orDefault kept .queryUrl rfl (holds .queryUrl),
    completes.orDefault kept .refreshSeconds rfl (holds .refreshSeconds)]
  rfl

theorem Beside.logging :
    orDefault LogSettings.ofValue? .default (root.lookup Part.logging.key) =
      some (settings.keep fields).logging := by
  obtain ⟨kind, inner, others, completes, read⟩ := h.read_part .logging
    (show LogSettings.ofValue? _ = some .default from rfl)
  rw [read]
  change (do
    return LogSettings.mk
      (← orDefault asString? _ (inner.lookup Field.level.key))
      (← orDefault asBool? _ (inner.lookup Field.showReadings.key))) = _
  rw [completes.orDefault kept .level rfl (holds .level),
    completes.orDefault kept .showReadings rfl (holds .showReadings)]
  rfl

theorem Beside.ofEntries? :
    Settings.ofEntries? root = some (settings.keep fields) := by
  have server := h.server kept holds
  have display := h.display kept holds
  have charts := h.charts kept holds
  have logging := h.logging kept holds
  change (do
    return Settings.mk
      (← orDefault ServerSettings.ofValue? _ (root.lookup Part.server.key))
      (← orDefault DisplaySettings.ofValue? _ (root.lookup Part.display.key))
      (← orDefault ChartSettings.ofValue? _ (root.lookup Part.charts.key))
      (← orDefault LogSettings.ofValue? _ (root.lookup Part.logging.key))) = _
  rw [server, display, charts, logging]
  rfl

end

/-! ## Partial files -/

/--
Settings are read from any of their fields in any order and any spelling, with
whatever else there is, and the fields that are left out have their defaults.
-/
theorem Settings.parse?_fields {settings : Settings}
    {lines : List SettingsLine} {text : String}
    (written : Written (lines.map SettingsLine.line)
      (unifyNewlines (dropMark text.toList)))
    (placed : SettingsLine.ArePlaced [] lines)
    (spelled : ∀ entry ∈ SettingsLine.fields lines,
      settings.Spells entry.2 entry.1)
    (once : ((SettingsLine.fields lines).map Prod.fst).Nodup)
    (single : (SettingsLine.headers lines).Nodup)
    (legal : ∀ about, .other about ∈ lines →
      ((SettingsLine.others lines).foldlM Document.take?
        ⟨[], []⟩).isSome = true) :
    Settings.parse? text =
      some (settings.keep ((SettingsLine.fields lines).map Prod.fst)) := by
  have possible : ((SettingsLine.others lines).foldlM Document.take?
      ⟨[], []⟩).isSome = true := by
    -- Without other lines only headers are left, which are always possible.
    by_cases none_other : ∀ about, .other about ∉ lines
    · rw [SettingsLine.others_eq_headers none_other]
      exact isSome_headers single (fun _ _ => rfl) []
    · obtain ⟨about, member⟩ := not_forall_not.mp none_other
      exact legal about member
  obtain ⟨last, taken_bare⟩ := Option.isSome_iff_exists.mp possible
  have reads : ∀ entry ∈ SettingsLine.fields lines,
      ∃ found, value entry.2 = some (found, []) := fun entry member => by
    obtain ⟨found, read, -⟩ := Spells.reads (spelled entry member)
    exact ⟨found, read⟩
  obtain ⟨document, taken, beside⟩ := beside_nil.lines
    (fun _ inPart => by cases inPart) placed reads once (fun _ _ => rfl)
      taken_bare
  rw [parse?, parse?_written written, taken]
  simp only [Option.or_none] at beside
  refine beside.ofEntries?
    (fun field => (isSome_writtenIn_iff reads field).symm)
    fun field found written => ?_
  obtain ⟨text, listed, read⟩ := exists_of_writtenIn written
  obtain ⟨found', read', holds⟩ := Spells.reads (spelled _ listed)
  rw [readValue, read'] at read
  obtain rfl := Option.some.inj read
  exact holds

/-- A file with two fields of a part among other keys. -/
def slashFile : String :=
  "t = 1\n[server]\ninitial_cursor = 0.5\nbase_url = \"\\u002F\"\nx = 2\n"

def slashLines : List SettingsLine :=
  [.other (.entry [['t']] ['1']),
    .header .server,
    .entry .initialCursor ['0', '.', '5'],
    .entry .baseUrl ['"', '\\', 'u', '0', '0', '2', 'F', '"'],
    .other (.entry [['x']] ['2'])]

def slashSettings : Settings :=
  { Settings.default with
    server := { ServerSettings.default with
      baseUrl := "/"
      initialCursor := some (.finite false 0x3FE0000000000000 (by decide)) } }

theorem slash_spelled : ∀ entry ∈ SettingsLine.fields slashLines,
    slashSettings.Spells entry.2 entry.1 := by
  have base_url : IsBasic "/".toList ['\\', 'u', '0', '0', '2', 'F', '"'] :=
    @IsBasic.numbered 'u' '/' 4 ['0', '0', '2', 'F'] _ _ (by decide) rfl
      (List.all_eq_true.mp (by decide)) rfl .close
  have cursor : IsReal (.finite false 0x3FE0000000000000 (by decide))
      ['0', '.', '5'] :=
    @IsReal.spelled _ _ _ ['0'] ['.', '5'] [] .zero
      (.some ⟨by decide, List.all_eq_true.mp (by decide)⟩) .none (by decide)
      (congrArg Decimal.value (by decide +kernel))
  intro entry member
  change entry ∈ [(Field.initialCursor, _), (Field.baseUrl, _)] at member
  simp only [List.mem_cons, List.not_mem_nil, or_false] at member
  rcases member with rfl | rfl
  · exact ⟨_, rfl, .real cursor⟩
  · exact ⟨_, base_url, rfl⟩

theorem slash_written : Written (slashLines.map SettingsLine.line)
    (unifyNewlines (dropMark slashFile.toList)) := by
  have t : IsKey ['t'] ['t'] :=
    .bare (by decide) (List.all_eq_true.mp (by decide))
  have x : IsKey ['x'] ['x'] :=
    .bare (by decide) (List.all_eq_true.mp (by decide))
  have one : value ['1'] = some (.integer 1, []) := rfl
  have two : value ['2'] = some (.integer 2, []) := rfl
  obtain ⟨_, cursor, -⟩ := Settings.Spells.reads
    (slash_spelled (.initialCursor, ['0', '.', '5']) (.head _))
  obtain ⟨_, base_url, -⟩ := Settings.Spells.reads
    (slash_spelled (.baseUrl, _) (.tail _ (.head _)))
  have written := Written.bareEntry t one (.bareTable (Part.isKey .server)
    (.bareEntry (Field.isKey .initialCursor) cursor
      (.bareEntry (Field.isKey .baseUrl) base_url
        (.bareEntry x two .done))))
  refine (congrArg (Written _) ?_).mpr written
  decide +kernel

theorem Settings.parse?_slashFile :
    Settings.parse? slashFile = some slashSettings := by
  refine Settings.parse?_fields slash_written
    ⟨?_, trivial, rfl, rfl, ?_, trivial⟩ slash_spelled (by decide) (by decide)
    fun _ _ => by decide +kernel
  · intro field
    cases field <;> decide +kernel
  · intro field
    cases field <;> decide +kernel

end MeterWatch
