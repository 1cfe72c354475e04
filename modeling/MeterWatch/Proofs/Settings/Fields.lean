import MeterWatch.Proofs.Toml.Tables

/-!
# Fields among other lines

The lines of a settings file are headers of its parts, fields, and anything
else.  A document with fields is beside the one without them after every line:
other keys are the same in both, and the fields are what was written.
-/

namespace MeterWatch

open Toml

/-! ## Fields -/

inductive Part where
  | server
  | display
  | charts
  | logging
  deriving DecidableEq, Repr

inductive Field where
  | baseUrl
  | timeoutSeconds
  | initialCursor
  | logView
  | utcClock
  | chartsEnabled
  | queryUrl
  | refreshSeconds
  | level
  | showReadings
  deriving DecidableEq, Repr

def Part.name : Part → String
  | server => "server"
  | display => "display"
  | charts => "charts"
  | logging => "logging"

def Part.key (part : Part) : Key := part.name.toList

namespace Field

def part : Field → Part
  | baseUrl | timeoutSeconds | initialCursor => .server
  | logView | utcClock => .display
  | chartsEnabled | queryUrl | refreshSeconds => .charts
  | level | showReadings => .logging

def name : Field → String
  | baseUrl => "base_url"
  | timeoutSeconds => "request_timeout_seconds"
  | initialCursor => "initial_cursor"
  | logView => "log_view"
  | utcClock => "utc_clock"
  | chartsEnabled => "enabled"
  | queryUrl => "query_url"
  | refreshSeconds => "refresh_seconds"
  | level => "level"
  | showReadings => "show_readings"

def key (field : Field) : Key := field.name.toList

def path (field : Field) : List Key := [field.part.key, field.key]

end Field

theorem Part.key_injective {part other : Part} (same : part.key = other.key) :
    part = other := by
  have same_name := String.toList_inj.mp same
  cases part <;> cases other <;> first | rfl | simp [Part.name] at same_name

theorem Field.key_injective {field other : Field}
    (same : field.key = other.key) : field = other := by
  have same_name := String.toList_inj.mp same
  cases field <;> cases other <;> first | rfl | simp [Field.name] at same_name

theorem Part.isKey (part : Part) : IsKey part.key part.key := by
  have letters : part.key ≠ [] ∧ part.key.all isBareKeyChar = true := by
    cases part <;> decide +kernel
  exact .bare letters.1 (List.all_eq_true.mp letters.2)

theorem Field.isKey (field : Field) : IsKey field.key field.key := by
  have letters : field.key ≠ [] ∧ field.key.all isBareKeyChar = true := by
    cases field <;> decide +kernel
  exact .bare letters.1 (List.all_eq_true.mp letters.2)

theorem Part.exists_field (part : Part) :
    ∃ field : Field, field.part = part := by
  cases part with
  | server => exact ⟨.baseUrl, rfl⟩
  | display => exact ⟨.logView, rfl⟩
  | charts => exact ⟨.queryUrl, rfl⟩
  | logging => exact ⟨.level, rfl⟩

/-! ## Lines of settings -/

/-- A path that neither leads to a field nor through one. -/
def IsForeign (path : List Key) : Prop :=
  ∀ field : Field, ¬ path <+: field.path ∧ ¬ field.path <+: path

inductive SettingsLine where
  | header (part : Part)
  /-- A field and the text of its value. -/
  | entry (field : Field) (text : List Char)
  | other (about : Line)

namespace SettingsLine

def line : SettingsLine → Line
  | .header part => .table [part.key]
  | .entry field text => .entry [field.key] text
  | .other about => about

def isEntry : SettingsLine → Bool
  | .entry .. => true
  | _ => false

/-- Fields are in their parts, and other lines are about something else. -/
def IsPlaced (current : List Key) : SettingsLine → Prop
  | .header _ => True
  | .entry field _ => current = [field.part.key]
  | .other about => IsForeign (about.fullPath current)

def ArePlaced : List Key → List SettingsLine → Prop
  | _, [] => True
  | current, line :: lines =>
      line.IsPlaced current ∧ ArePlaced (line.line.opened current) lines

def headers (lines : List SettingsLine) : List Part :=
  lines.filterMap fun
    | .header part => some part
    | _ => none

def fields (lines : List SettingsLine) : List (Field × List Char) :=
  lines.filterMap fun
    | .entry field text => some (field, text)
    | _ => none

/-- What is left without the fields. -/
def others (lines : List SettingsLine) : List Line :=
  lines.filterMap fun
    | .entry .. => none
    | line => some line.line

theorem fields_entry (field : Field) (text : List Char)
    (lines : List SettingsLine) :
    fields (.entry field text :: lines) = (field, text) :: fields lines :=
  rfl

theorem fields_noField {line : SettingsLine} (noField : line.isEntry = false)
    (lines : List SettingsLine) : fields (line :: lines) = fields lines := by
  cases line with
  | entry => cases noField
  | _ => rfl

theorem others_noField {line : SettingsLine} (noField : line.isEntry = false)
    (lines : List SettingsLine) :
    others (line :: lines) = line.line :: others lines := by
  cases line with
  | entry => cases noField
  | _ => rfl

end SettingsLine

/-! ## Documents with and without fields -/

/-- The entries of a part with its fields beside those without them. -/
structure Completes (part : Part) (written : Field → Option Value)
    (inner others : Entries) : Prop where
  fields : ∀ field : Field, field.part = part →
    inner.lookup field.key = written field
  others : ∀ key, (∀ field : Field, field.part = part → key ≠ field.key) →
    inner.lookup key = others.lookup key

/-- The entries of a document with fields beside those without them. -/
structure Beside (written : Field → Option Value) (full bare : Entries) :
    Prop where
  others : ∀ key, (∀ part : Part, key ≠ part.key) →
    full.lookup key = bare.lookup key
  parts : ∀ part : Part, ∃ kind? inner others,
    heldAt part.key full = some (kind?, inner) ∧
    heldAt part.key bare = some (kind?, others) ∧
    Completes part written inner others

def IsOpen (part : Part) (root : Entries) : Prop :=
  ∃ inner, heldAt part.key root = some (some .header, inner)

/-- If lines are in a part, then its header has opened it. -/
def Follows (current : List Key) (root : Entries) : Prop :=
  ∀ part : Part, current = [part.key] → IsOpen part root

/-- Nothing is written in two empty documents. -/
theorem beside_nil : Beside (fun _ => none) [] [] := by
  refine ⟨fun _ _ => rfl, fun part => ⟨none, [], [], rfl, rfl, ?_⟩⟩
  exact ⟨fun _ _ => rfl, fun _ _ => rfl⟩

theorem Completes.changed {part : Part} {written : Field → Option Value}
    {inner others others' : Entries} (h : Completes part written inner others)
    {key : Key} {change : Entries → Option Entries}
    (changes : ChangesKey key change)
    (unknown : ∀ field : Field, field.part = part → key ≠ field.key)
    (taken : change others = some others') :
    ∃ inner', change inner = some inner' ∧
      Completes part written inner' others' := by
  obtain ⟨inner', taken', same⟩ :=
    changes.transfer (h.others key unknown) taken
  refine ⟨inner', taken', fun field within => ?_, fun key' unknown' => ?_⟩
  · rw [changes.lookup_other taken' (unknown field within).symm,
      h.fields field within]
  · by_cases itself : key' = key
    · rw [itself, same]
    · rw [changes.lookup_other taken' itself,
        changes.lookup_other taken itself, h.others key' unknown']

namespace Beside

variable {written : Field → Option Value} {full bare : Entries}
  (h : Beside written full bare)

include h

/-- A change of one part leaves the others as they are. -/
theorem changePart {part : Part} {written' : Field → Option Value}
    {full' bare' inner others : Entries} {kind? : Option TableKind}
    (full_held : heldAt part.key full' = some (kind?, inner))
    (bare_held : heldAt part.key bare' = some (kind?, others))
    (completes : Completes part written' inner others)
    (full_same : ∀ key, key ≠ part.key → full'.lookup key = full.lookup key)
    (bare_same : ∀ key, key ≠ part.key → bare'.lookup key = bare.lookup key)
    (written_same : ∀ field : Field, field.part ≠ part →
      written' field = written field) :
    Beside written' full' bare' := by
  refine ⟨fun key unknown => ?_, fun other => ?_⟩
  · rw [full_same key (unknown part), bare_same key (unknown part),
      h.others key unknown]
  · by_cases itself : other = part
    · subst itself
      exact ⟨kind?, inner, others, full_held, bare_held, completes⟩
    · obtain ⟨kind?, inner, others, held, held', completes⟩ := h.parts other
      have apart : other.key ≠ part.key := fun same =>
        itself (Part.key_injective same)
      rw [← heldAt_congr (full_same other.key apart)] at held
      rw [← heldAt_congr (bare_same other.key apart)] at held'
      refine ⟨kind?, inner, others, held, held', ?_, completes.others⟩
      intro field within
      rw [written_same field (within ▸ itself), completes.fields field within]

/-- A line about no part changes the same in both documents. -/
theorem changeOther {key : Key} (apart : ∀ part : Part, key ≠ part.key)
    {change : Entries → Option Entries} (changes : ChangesKey key change)
    {bare' : Entries} (taken : change bare = some bare') :
    ∃ full', change full = some full' ∧ Beside written full' bare' ∧
      ∀ part : Part, heldAt part.key full' = heldAt part.key full := by
  obtain ⟨full', taken', same⟩ :=
    changes.transfer (h.others key apart) taken
  have full_same (part : Part) :
      heldAt part.key full' = heldAt part.key full :=
    heldAt_congr (changes.lookup_other taken' (apart part).symm)
  have bare_same (part : Part) :
      heldAt part.key bare' = heldAt part.key bare :=
    heldAt_congr (changes.lookup_other taken (apart part).symm)
  refine ⟨full', taken', ⟨fun key' unknown => ?_, fun part => ?_⟩, full_same⟩
  · by_cases itself : key' = key
    · rw [itself, same]
    · rw [changes.lookup_other taken' itself,
        changes.lookup_other taken itself, h.others key' unknown]
  · rw [full_same, bare_same]
    exact h.parts part

/-- A line about a key of a part that is no field changes the same in both. -/
theorem changeInside {part : Part} {second : Key}
    (unknown : ∀ field : Field, field.part = part → second ≠ field.key)
    {viaDots : Bool} {change : Change} {path : List Key}
    (changes : ∀ kind, ChangesKey second (changeAt viaDots change path kind))
    {bare' : Entries}
    (taken : changeAt viaDots change (part.key :: path) .header bare =
      some bare') :
    ∃ full', changeAt viaDots change (part.key :: path) .header full =
        some full' ∧ Beside written full' bare' ∧
      ∀ part : Part, IsOpen part full → IsOpen part full' := by
  obtain ⟨kind?, inner, others, full_held, bare_held, completes⟩ :=
    h.parts part
  rw [changeAt_held bare_held] at taken
  rw [changeAt_held full_held]
  dsimp only at taken ⊢
  generalize inside_eq : kind?.getD (if viaDots then .dotted else .implied) =
    inside at taken ⊢
  -- Both tables are of one kind, so the path may enter both or neither.
  split at taken
  · next mayEnter =>
      obtain ⟨others', changed, rfl⟩ := Option.map_eq_some_iff.mp taken
      obtain ⟨inner', changed', completes⟩ :=
        completes.changed (changes inside) unknown changed
      rw [if_pos mayEnter, changed']
      refine ⟨_, rfl, ?_, fun other isOpen => ?_⟩
      · exact h.changePart (heldAt_setEntry ..) (heldAt_setEntry ..) completes
          (fun _ different => lookup_setEntry_other different ..)
          (fun _ different => lookup_setEntry_other different ..)
          fun _ _ => rfl
      · obtain ⟨old, old_held⟩ := isOpen
        by_cases itself : other = part
        · subst itself
          obtain ⟨rfl, -⟩ := Prod.mk.inj
            (Option.some.inj (full_held.symm.trans old_held))
          obtain rfl : TableKind.header = inside := inside_eq
          exact ⟨inner', heldAt_setEntry ..⟩
        · refine ⟨old, ?_⟩
          rw [heldAt_setEntry_other (fun same =>
            itself (Part.key_injective same)), old_held]
  · cases taken

/-- A line about neither a part nor a field changes the same in both. -/
theorem changeForeign {current path : List Key} {line : Line}
    {change : Change} (foreign : IsForeign (line.fullPath current))
    (step : line.change? current = some (path, change)) {bare' : Entries}
    (changed : changeAt false change path .header bare = some bare') :
    ∃ full', changeAt false change path .header full = some full' ∧
      Beside written full' bare' ∧
      ∀ part : Part, IsOpen part full → IsOpen part full' := by
  cases whole : line.fullPath current with
  | nil =>
      rw [whole] at foreign
      exact absurd List.nil_prefix (foreign .baseUrl).1
  | cons key rest =>
      rw [whole] at foreign
      by_cases known : ∃ part : Part, key = part.key
      · obtain ⟨part, rfl⟩ := known
        cases rest with
        | nil =>
            obtain ⟨field, rfl⟩ := part.exists_field
            exact absurd ⟨[field.key], rfl⟩ (foreign field).1
        | cons second rest =>
            have unknown : ∀ field : Field, field.part = part →
                second ≠ field.key := by
              rintro field rfl rfl
              exact (foreign field).2 ⟨rest, rfl⟩
            obtain ⟨viaDots, change', path', same, changes⟩ :=
              Line.changesInner step whole
            rw [same] at changed ⊢
            exact h.changeInside unknown changes changed
      · obtain ⟨full', changed', beside, held_same⟩ := h.changeOther
          (fun part same => known ⟨part, same⟩)
          (Line.changesKey step whole) changed
        refine ⟨full', changed', beside, fun part isOpen => ?_⟩
        obtain ⟨inner, held⟩ := isOpen
        exact ⟨inner, (held_same part).trans held⟩

theorem other {current : List Key} {line : Line} {document : Document}
    (follows : Follows current full)
    (foreign : IsForeign (line.fullPath current))
    (taken : Document.take? ⟨bare, current⟩ line = some document) :
    ∃ full', Document.take? ⟨full, current⟩ line =
        some ⟨full', document.current⟩ ∧
      Beside written full' document.root ∧
      Follows document.current full' := by
  rw [take?_eq] at taken ⊢
  obtain ⟨⟨path, change⟩, step, ends⟩ := Option.bind_eq_some_iff.mp taken
  obtain ⟨bare', changed, rfl⟩ := Option.map_eq_some_iff.mp ends
  obtain ⟨full', changed', beside, still_open⟩ :=
    h.changeForeign foreign step changed
  refine ⟨full', ?_, beside, fun part inPart => ?_⟩
  · rw [step, Option.bind_some, changed']
    rfl
  · cases line with
    | entry => exact still_open part (follows part inPart)
    | table path | tables path =>
        obtain ⟨field, rfl⟩ := part.exists_field
        obtain rfl : path = [field.part.key] := inPart
        exact absurd ⟨[field.key], rfl⟩ (foreign field).1

theorem header {current : List Key} {part : Part} {document : Document}
    (taken : Document.take? ⟨bare, current⟩ (.table [part.key]) =
      some document) :
    ∃ full', Document.take? ⟨full, current⟩ (.table [part.key]) =
        some ⟨full', document.current⟩ ∧
      Beside written full' document.root ∧
      Follows document.current full' := by
  obtain ⟨kind?, inner, others, full_held, bare_held, completes⟩ :=
    h.parts part
  rw [take?_eq] at taken ⊢
  obtain ⟨bare', opened, rfl⟩ := Option.map_eq_some_iff.mp taken
  change openTable part.key .header bare = some bare' at opened
  change ∃ full', (openTable part.key .header full).map _ = _ ∧ _
  rw [openTable_held bare_held] at opened
  rw [openTable_held full_held]
  split at opened
  · next mayOpen =>
      cases opened
      rw [if_pos mayOpen]
      refine ⟨_, rfl, ?_, fun opened same => ?_⟩
      · exact h.changePart (heldAt_setEntry ..) (heldAt_setEntry ..) completes
          (fun _ different => lookup_setEntry_other different ..)
          (fun _ different => lookup_setEntry_other different ..)
          fun _ _ => rfl
      · obtain rfl := Part.key_injective (List.cons.inj same).1
        exact ⟨inner, heldAt_setEntry ..⟩
  · cases opened

/-- A line that is no field is taken into both documents alike. -/
theorem step {current : List Key} {line : SettingsLine}
    (follows : Follows current full) (place : line.IsPlaced current)
    (noField : line.isEntry = false) {document : Document}
    (taken : Document.take? ⟨bare, current⟩ line.line = some document) :
    ∃ full', Document.take? ⟨full, current⟩ line.line =
        some ⟨full', document.current⟩ ∧
      Beside written full' document.root ∧
      Follows document.current full' := by
  cases line with
  | header part => exact h.header taken
  | other about => exact h.other follows place taken
  | entry => cases noField

theorem entry {field : Field} {text : List Char} {found : Value}
    (isOpen : IsOpen field.part full) (fresh : written field = none)
    (read : value text = some (found, [])) :
    ∃ full', Document.take? ⟨full, [field.part.key]⟩ (.entry [field.key] text) =
        some ⟨full', [field.part.key]⟩ ∧
      Beside (fun other => if other = field then some found else written other)
        full' bare ∧ Follows [field.part.key] full' := by
  obtain ⟨inner, held⟩ := isOpen
  obtain ⟨kind?, inner', others, full_held, bare_held, completes⟩ :=
    h.parts field.part
  obtain ⟨rfl, rfl⟩ := Prod.mk.inj
    (Option.some.inj (full_held.symm.trans held))
  have absent : inner'.lookup field.key = none :=
    (completes.fields field rfl).trans fresh
  have added : changeAt false
      (fun kind entries => addPath kind entries [field.key] found) [] .header
        inner' = some (setEntry field.key found inner') := by
    change addEntry false field.key found .header inner' = _
    rw [addEntry, hasKey, absent]
    rfl
  have completes' : Completes field.part
      (fun other => if other = field then some found else written other)
        (setEntry field.key found inner') others := by
    refine ⟨fun other within => ?_, fun key unknown => ?_⟩
    · rw [lookup_setEntry, completes.fields other within]
      by_cases itself : other = field
      · rw [if_pos itself, if_pos (congrArg Field.key itself)]
      · rw [if_neg itself, if_neg fun same =>
          itself (Field.key_injective same)]
    · rw [lookup_setEntry, if_neg (unknown field rfl),
        completes.others key unknown]
  rw [take?_eq, Line.change?, read]
  dsimp only [Option.map_some, Option.bind_some]
  rw [changeAt_held full_held]
  dsimp only [Option.all_some, Option.getD_some]
  rw [if_pos (show TableKind.header.isOpenTo false = true from rfl), added]
  refine ⟨_, rfl, ?_, fun part same => ?_⟩
  · refine h.changePart (heldAt_setEntry ..) bare_held completes'
      (fun _ different => lookup_setEntry_other different ..)
      (fun _ _ => rfl) fun other elsewhere => if_neg ?_
    rintro rfl
    exact elsewhere rfl
  · obtain rfl := Part.key_injective (List.cons.inj same).1
    exact ⟨_, heldAt_setEntry ..⟩

end Beside

/-! ## Whole documents -/

/-- What a text reads as on its own. -/
def readValue (text : List Char) : Option Value := (value text).map Prod.fst

/-- The values that fields have in a list of them. -/
def writtenIn (fields : List (Field × List Char)) (field : Field) :
    Option Value := (fields.lookup field).bind readValue

theorem writtenIn_cons (field other : Field) (text : List Char)
    (fields : List (Field × List Char)) :
    writtenIn ((field, text) :: fields) other =
      if other = field then readValue text else writtenIn fields other := by
  rw [writtenIn, List.lookup_cons]
  by_cases same : other = field
  · rw [if_pos same, beq_iff_eq.mpr same]
    rfl
  · rw [if_neg same, beq_eq_false_iff_ne.mpr same]
    rfl

theorem writtenIn_absent {field : Field} {fields : List (Field × List Char)}
    (absent : field ∉ fields.map Prod.fst) : writtenIn fields field = none := by
  have unfound : fields.lookup field = none := by
    rw [List.lookup_eq_none_iff]
    rintro entry member
    rw [bne_iff_ne]
    rintro rfl
    exact absent (List.mem_map_of_mem member)
  rw [writtenIn, unfound, Option.bind_none]

theorem exists_of_writtenIn {field : Field} {fields : List (Field × List Char)}
    {found : Value} (h : writtenIn fields field = some found) :
    ∃ text, (field, text) ∈ fields ∧ readValue text = some found := by
  obtain ⟨text, listed, read⟩ := Option.bind_eq_some_iff.mp h
  obtain ⟨before, after, rfl, -⟩ := List.lookup_eq_some_iff.mp listed
  exact ⟨text, by simp, read⟩

theorem isSome_writtenIn_iff {fields : List (Field × List Char)}
    (reads : ∀ entry ∈ fields, ∃ found, value entry.2 = some (found, []))
    (field : Field) :
    (writtenIn fields field).isSome = true ↔ field ∈ fields.map Prod.fst := by
  refine ⟨fun isSome => ?_, fun member => ?_⟩
  · obtain ⟨found, written⟩ := Option.isSome_iff_exists.mp isSome
    obtain ⟨text, listed, -⟩ := exists_of_writtenIn written
    exact List.mem_map_of_mem listed
  · induction fields with
    | nil => cases member
    | cons entry fields ih =>
        obtain ⟨first, text⟩ := entry
        obtain ⟨⟨found, read⟩, reads⟩ := List.forall_mem_cons.mp reads
        rw [writtenIn_cons]
        split
        · rw [readValue, read]
          rfl
        · next different =>
            exact ih reads (List.mem_of_ne_of_mem different member)

theorem writtenIn_cons_or {field : Field} {text : List Char} {found : Value}
    (read : value text = some (found, [])) {fields : List (Field × List Char)}
    (single : field ∉ fields.map Prod.fst) (written : Field → Option Value)
    (other : Field) :
    (writtenIn ((field, text) :: fields) other).or (written other) =
      (writtenIn fields other).or
        (if other = field then some found else written other) := by
  rw [writtenIn_cons]
  by_cases same : other = field
  · rw [if_pos same, if_pos same, same, writtenIn_absent single, readValue,
      read]
    rfl
  · rw [if_neg same, if_neg same]

/-- Lines that are possible without the fields are possible with them. -/
theorem Beside.lines {lines : List SettingsLine} {current : List Key}
    {written : Field → Option Value} {full bare : Entries}
    (h : Beside written full bare) (follows : Follows current full)
    (placed : SettingsLine.ArePlaced current lines)
    (reads : ∀ entry ∈ SettingsLine.fields lines,
      ∃ found, value entry.2 = some (found, []))
    (once : ((SettingsLine.fields lines).map Prod.fst).Nodup)
    (fresh : ∀ field ∈ (SettingsLine.fields lines).map Prod.fst,
      written field = none)
    {last : Document} (legal : (SettingsLine.others lines).foldlM
      Document.take? ⟨bare, current⟩ = some last) :
    ∃ document, (lines.map SettingsLine.line).foldlM Document.take?
        ⟨full, current⟩ = some document ∧
      Beside (fun field =>
        (writtenIn (SettingsLine.fields lines) field).or (written field))
          document.root last.root := by
  -- A line keeps the two documents beside each other; only fields make one
  -- differ from the other, and each of them is new.
  induction lines generalizing current written full bare with
  | nil =>
      obtain rfl := Option.some.inj legal
      exact ⟨_, rfl, h⟩
  | cons line lines ih =>
      obtain ⟨place, placed⟩ := placed
      rw [List.map_cons, List.foldlM_cons]
      cases isEntry : line.isEntry with
      | false =>
          rw [SettingsLine.fields_noField isEntry] at reads once fresh ⊢
          rw [SettingsLine.others_noField isEntry, List.foldlM_cons] at legal
          obtain ⟨next, taken, legal⟩ := Option.bind_eq_some_iff.mp legal
          obtain ⟨full', taken', beside, follows⟩ :=
            h.step follows place isEntry taken
          rw [← take?_current taken] at placed
          rw [taken']
          exact ih beside follows placed reads once fresh legal
      | true =>
          cases line with
          | header | other => cases isEntry
          | entry field text =>
              obtain rfl : current = [field.part.key] := place
              rw [SettingsLine.fields_entry] at reads once fresh ⊢
              obtain ⟨⟨found, read⟩, reads⟩ := List.forall_mem_cons.mp reads
              obtain ⟨alone, once⟩ := List.nodup_cons.mp once
              obtain ⟨absent, fresh⟩ := List.forall_mem_cons.mp fresh
              obtain ⟨full', taken', beside, follows⟩ :=
                h.entry (follows field.part rfl) absent read
              have still_fresh : ∀ other ∈
                  (SettingsLine.fields lines).map Prod.fst,
                  (if other = field then some found else written other) =
                    none := by
                intro other member
                rw [if_neg, fresh other member]
                rintro rfl
                exact alone member
              rw [funext (writtenIn_cons_or read alone written),
                SettingsLine.line, taken']
              exact ih beside follows placed reads once still_fresh legal

/-! ## Headers -/

/-- Parts may stand in any order. -/
theorem isSome_headers {parts : List Part} (single : parts.Nodup)
    {root : Entries} (absent : ∀ part ∈ parts, root.lookup part.key = none)
    (current : List Key) :
    ((parts.map fun part => Line.table [part.key]).foldlM Document.take?
      ⟨root, current⟩).isSome = true := by
  induction parts generalizing root current with
  | nil => rfl
  | cons part parts ih =>
      obtain ⟨fresh, single⟩ := List.nodup_cons.mp single
      obtain ⟨missing, absent⟩ := List.forall_mem_cons.mp absent
      have held : heldAt part.key root = some (none, []) := by
        rw [heldAt, missing]
      have opened : Document.take? ⟨root, current⟩ (.table [part.key]) =
          some ⟨setEntry part.key (.table .header []) root, [part.key]⟩ := by
        rw [take?_eq]
        change (openTable part.key .header root).map _ = _
        rw [openTable_held held, if_pos (.inl rfl)]
        rfl
      have still_absent : ∀ other ∈ parts,
          (setEntry part.key (.table .header []) root).lookup other.key =
            none := by
        intro other member
        rw [lookup_setEntry_other, absent other member]
        intro same
        exact fresh (Part.key_injective same ▸ member)
      rw [List.map_cons, List.foldlM_cons, opened]
      exact ih single still_absent [part.key]

theorem SettingsLine.others_eq_headers {lines : List SettingsLine}
    (none_other : ∀ about, .other about ∉ lines) :
    others lines = (headers lines).map fun part => Line.table [part.key] := by
  induction lines with
  | nil => rfl
  | cons line lines ih =>
      have rest := ih fun about member =>
        none_other about (List.mem_cons_of_mem _ member)
      cases line with
      | header part => exact congrArg (Line.table [part.key] :: ·) rest
      | entry => exact rest
      | other about => exact absurd List.mem_cons_self (none_other about)

end MeterWatch
