import MeterWatch.Proofs.Toml.Lines

/-!
# What one line changes

A line changes one key of a document, and of the table under that key again one
key.  What it does there depends on that key alone, so lines about different
keys do not meet.
-/

namespace MeterWatch.Toml

/-! ## Entries -/

theorem lookup_setEntry (key other : Key) (value : Value) (entries : Entries) :
    (setEntry key value entries).lookup other =
      if other = key then some value else entries.lookup other := by
  induction entries with
  | nil =>
      rw [setEntry, List.lookup_cons]
      split <;> simp_all
  | cons entry rest ih =>
      obtain ⟨first, old⟩ := entry
      rw [setEntry]
      split
      · next same =>
          subst same
          rw [List.lookup_cons, List.lookup_cons]
          split <;> simp_all
      · next different =>
          rw [List.lookup_cons, List.lookup_cons, ih]
          split
          · next same =>
              rw [if_neg]
              rintro rfl
              exact different (beq_iff_eq.mp same).symm
          · rfl

theorem lookup_setEntry_other {key other : Key} (different : other ≠ key)
    (value : Value) (entries : Entries) :
    (setEntry key value entries).lookup other = entries.lookup other := by
  rw [lookup_setEntry, if_neg different]

/-! ## Changes of one key -/

/-- A change of one key, if any, by what is there. -/
def ChangesKey (key : Key) (change : Entries → Option Entries) : Prop :=
  ∀ found : Option Value, ∃ next? : Option Value, ∀ entries : Entries,
    entries.lookup key = found →
      change entries = next?.map fun value => setEntry key value entries

theorem changeAt_changesKey (viaDots : Bool) (change : Change) (key : Key)
    (path : List Key) (kind : TableKind) :
    ChangesKey key (changeAt viaDots change (key :: path) kind) := by
  intro found
  cases found with
  | none =>
      let start : TableKind := if viaDots then .dotted else .implied
      refine ⟨(changeAt viaDots change path start []).map (.table start),
        fun entries absent => ?_⟩
      rw [changeAt, absent]
      dsimp only
      cases changeAt viaDots change path start [] <;> rfl
  | some value =>
      cases value with
      | table start old =>
          refine ⟨if start.isOpenTo viaDots then
            (changeAt viaDots change path start old).map (.table start)
              else none, fun entries same => ?_⟩
          rw [changeAt, same]
          dsimp only
          split
          · cases changeAt viaDots change path start old <;> rfl
          · rfl
      | tables items =>
          cases last : items.getLast? with
          | none =>
              refine ⟨none, fun entries same => ?_⟩
              rw [changeAt, same]
              dsimp only
              rw [last]
              rfl
          | some item =>
              cases item with
              | table start old =>
                  refine ⟨(changeAt viaDots change path start old).map
                    fun inner => .tables (items.dropLast ++
                      [.table start inner]), fun entries same => ?_⟩
                  rw [changeAt, same]
                  dsimp only
                  rw [last]
                  dsimp only
                  cases changeAt viaDots change path start old <;> rfl
              | _ =>
                  refine ⟨none, fun entries same => ?_⟩
                  rw [changeAt, same]
                  dsimp only
                  rw [last]
                  rfl
      | _ => exact ⟨none, fun entries same => by rw [changeAt, same]; rfl⟩

theorem addEntry_changesKey (isDotted : Bool) (key : Key) (value : Value)
    (kind : TableKind) : ChangesKey key (addEntry isDotted key value kind) := by
  intro found
  refine ⟨if (kind == .dotted) != isDotted || found.isSome then none
    else some value, fun entries same => ?_⟩
  rw [addEntry, hasKey, same]
  split <;> rfl

theorem openTable_changesKey (key : Key) (kind : TableKind) :
    ChangesKey key (openTable key kind) := by
  intro found
  cases found with
  | none =>
      exact ⟨some (.table .header []), fun entries absent => by
        rw [openTable, absent]
        rfl⟩
  | some value =>
      cases value with
      | table start inner =>
          refine ⟨if start = .implied then some (.table .header inner)
            else none, fun entries same => ?_⟩
          rw [openTable, same]
          cases start <;> rfl
      | _ => exact ⟨none, fun entries same => by rw [openTable, same]; rfl⟩

theorem pushTable_changesKey (key : Key) (kind : TableKind) :
    ChangesKey key (pushTable key kind) := by
  intro found
  cases found with
  | none =>
      exact ⟨some (.tables [.table .header []]), fun entries absent => by
        rw [pushTable, absent]
        rfl⟩
  | some value =>
      cases value with
      | tables items =>
          exact ⟨some (.tables (items ++ [.table .header []])),
            fun entries same => by
              rw [pushTable, same]
              rfl⟩
      | _ => exact ⟨none, fun entries same => by rw [pushTable, same]; rfl⟩

/-- A path with points makes tables on its way to the last key. -/
theorem addPath_dotted (kind : TableKind) (entries : Entries)
    (key second : Key) (path : List Key) (value : Value) :
    addPath kind entries (key :: second :: path) value =
      changeAt true
        (addEntry true ((second :: path).getLast (List.cons_ne_nil _ _)) value)
        (key :: (second :: path).dropLast) kind entries := by
  have last : (key :: second :: path).getLast? =
      some ((second :: path).getLast (List.cons_ne_nil _ _)) := by
    rw [List.getLast?_cons_cons]
    exact List.getLast?_eq_some_getLast _
  rw [addPath, last]
  rfl

theorem addPath_changesKey (kind : TableKind) (key : Key) (path : List Key)
    (value : Value) :
    ChangesKey key fun entries =>
      addPath kind entries (key :: path) value := by
  cases path with
  | nil => exact addEntry_changesKey false key value kind
  | cons second path =>
      rw [funext fun entries =>
        addPath_dotted kind entries key second path value]
      exact changeAt_changesKey _ _ _ _ _

namespace ChangesKey

variable {key : Key} {change : Entries → Option Entries}
  (h : ChangesKey key change)

include h

theorem lookup_other {entries changed : Entries}
    (taken : change entries = some changed) {other : Key}
    (different : other ≠ key) :
    changed.lookup other = entries.lookup other := by
  obtain ⟨next?, next⟩ := h (entries.lookup key)
  rw [next entries rfl, Option.map_eq_some_iff] at taken
  obtain ⟨value, -, rfl⟩ := taken
  exact lookup_setEntry_other different value entries

/-- Where the same is there, the same is put there. -/
theorem transfer {entries similar changed : Entries}
    (same : similar.lookup key = entries.lookup key)
    (taken : change entries = some changed) :
    ∃ changed', change similar = some changed' ∧
      changed'.lookup key = changed.lookup key := by
  obtain ⟨next?, next⟩ := h (entries.lookup key)
  rw [next entries rfl, Option.map_eq_some_iff] at taken
  obtain ⟨value, found, rfl⟩ := taken
  refine ⟨setEntry key value similar, ?_, ?_⟩
  · rw [next similar same, found]
    rfl
  · rw [lookup_setEntry, lookup_setEntry, if_pos rfl, if_pos rfl]

end ChangesKey

/-! ## Changes further inside -/

/-- The changes that a path leads to change the next key. -/
theorem changeAt_changesKey_append {viaDots : Bool} {change : Change}
    {path inner rest : List Key} {key : Key}
    (h : ∀ first others, inner = first :: others →
      ∀ kind, ChangesKey first (change kind))
    (head : path ++ inner = key :: rest) (kind : TableKind) :
    ChangesKey key (changeAt viaDots change path kind) := by
  cases path with
  | nil => exact h key rest head kind
  | cons first path =>
      obtain ⟨rfl, -⟩ := List.cons.inj head
      exact changeAt_changesKey _ _ _ _ _

/-- The kind of a table, if there is one, and what it holds. -/
def heldAt (key : Key) (entries : Entries) :
    Option (Option TableKind × Entries) :=
  match entries.lookup key with
  | none => some (none, [])
  | some (.table kind inner) => some (some kind, inner)
  | some _ => none

theorem heldAt_congr {key : Key} {entries similar : Entries}
    (same : similar.lookup key = entries.lookup key) :
    heldAt key similar = heldAt key entries := by
  rw [heldAt, heldAt, same]

theorem heldAt_setEntry (key : Key) (kind : TableKind)
    (inner entries : Entries) :
    heldAt key (setEntry key (.table kind inner) entries) =
      some (some kind, inner) := by
  rw [heldAt, lookup_setEntry, if_pos rfl]

theorem heldAt_setEntry_other {key other : Key} (different : other ≠ key)
    (value : Value) (entries : Entries) :
    heldAt other (setEntry key value entries) = heldAt other entries :=
  heldAt_congr (lookup_setEntry_other different value entries)

/-- A path into a table changes what the table holds, and keeps its kind. -/
theorem changeAt_held {key : Key} {kind? : Option TableKind}
    {entries inner : Entries} (held : heldAt key entries = some (kind?, inner))
    (viaDots : Bool) (change : Change) (path : List Key) (kind : TableKind) :
    changeAt viaDots change (key :: path) kind entries =
      let inside := kind?.getD (if viaDots then .dotted else .implied)
      if kind?.all (·.isOpenTo viaDots) then
        (changeAt viaDots change path inside inner).map fun inner =>
          setEntry key (.table inside inner) entries
      else none := by
  rw [changeAt]
  unfold heldAt at held
  split at held
  · next absent =>
      cases held
      rw [absent]
      dsimp only [Option.getD_none, Option.all_none]
      rw [if_pos rfl]
      cases changeAt viaDots change path
        (if viaDots then .dotted else .implied) [] <;> rfl
  · next kind inner found =>
      cases held
      rw [found]
      dsimp only [Option.getD_some, Option.all_some]
      split
      · cases changeAt viaDots change path kind inner <;> rfl
      · rfl
  · cases held

theorem openTable_held {key : Key} {kind? : Option TableKind}
    {entries inner : Entries} (held : heldAt key entries = some (kind?, inner))
    (kind : TableKind) :
    openTable key kind entries =
      if kind? = none ∨ kind? = some .implied then
        some (setEntry key (.table .header inner) entries)
      else none := by
  rw [openTable]
  unfold heldAt at held
  split at held
  · next absent =>
      cases held
      rw [absent, if_pos (.inl rfl)]
  · next inside _ found =>
      cases held
      rw [found]
      cases inside <;> rfl
  · cases held

/-! ## Lines -/

namespace Line

/-- The keys that lead to what a line is about. -/
def fullPath (current : List Key) : Line → List Key
  | .table path | .tables path => path
  | .entry path _ => current ++ path

/-- The table that the lines behind a line are in. -/
def opened (current : List Key) : Line → List Key
  | .table path | .tables path => path
  | .entry _ _ => current

/-- The path that a line follows over headers, and what it does at its end. -/
def change? (current : List Key) : Line → Option (List Key × Change)
  | .table path => path.getLast?.map fun key => (path.dropLast, openTable key)
  | .tables path => path.getLast?.map fun key => (path.dropLast, pushTable key)
  | .entry path text => (value text).map fun found =>
      (current, fun kind entries => addPath kind entries path found.1)

end Line

theorem take?_eq (root : Entries) (current : List Key) (line : Line) :
    Document.take? ⟨root, current⟩ line =
      (line.change? current).bind fun step =>
        (changeAt false step.2 step.1 .header root).map fun root =>
          ⟨root, line.opened current⟩ := by
  have changed (path : List Key) (change : Change) :
      Document.change ⟨root, current⟩ path change =
        (changeAt false change path .header root).map fun root =>
          ⟨root, current⟩ := by
    unfold Document.change
    dsimp only
    cases changeAt false change path .header root <;> rfl
  have entered (opening : Key → Change) (path : List Key) :
      Document.enter ⟨root, current⟩ path opening =
        (path.getLast?.map fun key => (path.dropLast, opening key)).bind
          fun step => (changeAt false step.2 step.1 .header root).map
            fun root => ⟨root, path⟩ := by
    unfold Document.enter
    cases path.getLast? with
    | none => rfl
    | some key =>
        dsimp only [Option.bind_eq_bind, Option.bind_some, Option.map_some]
        rw [changed]
        cases changeAt false (opening key) path.dropLast .header root <;> rfl
  cases line with
  | table path => exact entered openTable path
  | tables path => exact entered pushTable path
  | entry path text =>
      rw [Document.take?, Line.change?]
      cases value text with
      | none => rfl
      | some found => exact changed current _

theorem take?_current {root : Entries} {current : List Key} {line : Line}
    {document : Document}
    (taken : Document.take? ⟨root, current⟩ line = some document) :
    document.current = line.opened current := by
  rw [take?_eq] at taken
  obtain ⟨step, -, changed⟩ := Option.bind_eq_some_iff.mp taken
  obtain ⟨root', -, rfl⟩ := Option.map_eq_some_iff.mp changed
  rfl

/-- The part of a path behind the headers, and that it is what changes. -/
theorem Line.change?_ends {current : List Key} {line : Line}
    {path : List Key} {change : Change}
    (h : line.change? current = some (path, change)) :
    ∃ inner, path ++ inner = line.fullPath current ∧
      ∀ first others, inner = first :: others →
        ∀ kind, ChangesKey first (change kind) := by
  have split_last {whole : List Key} {key : Key}
      (last : whole.getLast? = some key) : whole.dropLast ++ [key] = whole :=
    List.dropLast_append_getLast? key last
  cases line with
  | table whole =>
      obtain ⟨key, last, step_eq⟩ := Option.map_eq_some_iff.mp h
      obtain ⟨rfl, rfl⟩ := Prod.mk.inj step_eq
      refine ⟨[key], split_last last, fun first others whole_eq => ?_⟩
      obtain ⟨rfl, -⟩ := List.cons.inj whole_eq
      exact openTable_changesKey key
  | tables whole =>
      obtain ⟨key, last, step_eq⟩ := Option.map_eq_some_iff.mp h
      obtain ⟨rfl, rfl⟩ := Prod.mk.inj step_eq
      refine ⟨[key], split_last last, fun first others whole_eq => ?_⟩
      obtain ⟨rfl, -⟩ := List.cons.inj whole_eq
      exact pushTable_changesKey key
  | entry inner text =>
      obtain ⟨found, -, step_eq⟩ := Option.map_eq_some_iff.mp h
      obtain ⟨rfl, rfl⟩ := Prod.mk.inj step_eq
      refine ⟨inner, rfl, ?_⟩
      rintro first others rfl kind
      exact addPath_changesKey kind first others found.1

/-- A line changes one key of a document. -/
theorem Line.changesKey {current : List Key} {line : Line}
    {path : List Key} {change : Change}
    (h : line.change? current = some (path, change)) {key : Key}
    {rest : List Key} (full : line.fullPath current = key :: rest) :
    ChangesKey key (changeAt false change path .header) := by
  obtain ⟨inner, full_eq, ends⟩ := change?_ends h
  exact changeAt_changesKey_append ends (full_eq.trans full) .header

/-- A line about more than one key changes one key inside a table. -/
theorem Line.changesInner {current : List Key} {line : Line}
    {path : List Key} {change : Change}
    (h : line.change? current = some (path, change)) {key second : Key}
    {rest : List Key} (full : line.fullPath current = key :: second :: rest) :
    ∃ viaDots change' path',
      (∀ root, changeAt false change path .header root =
        changeAt viaDots change' (key :: path') .header root) ∧
      ∀ kind, ChangesKey second (changeAt viaDots change' path' kind) := by
  cases path with
  | cons first path =>
      obtain ⟨inner, full_eq, ends⟩ := change?_ends h
      obtain ⟨rfl, inner_eq⟩ := List.cons.inj (full_eq.trans full)
      exact ⟨false, change, path, fun _ => rfl,
        changeAt_changesKey_append ends inner_eq⟩
  | nil =>
      -- In the root, only a dotted entry is about more than one key.
      cases line with
      | table whole | tables whole =>
          obtain ⟨key, last, step_eq⟩ := Option.map_eq_some_iff.mp h
          obtain ⟨short, -⟩ := Prod.mk.inj step_eq
          obtain rfl := show whole = _ from full
          cases short
      | entry inner text =>
          obtain ⟨found, -, step_eq⟩ := Option.map_eq_some_iff.mp h
          obtain ⟨rfl, rfl⟩ := Prod.mk.inj step_eq
          obtain rfl := show inner = _ from full
          refine ⟨true, _, (second :: rest).dropLast, fun root =>
            addPath_dotted .header root key second rest found.1, ?_⟩
          refine changeAt_changesKey_append (fun first others last_eq => ?_)
            (List.dropLast_append_getLast (List.cons_ne_nil _ _))
          obtain ⟨rfl, -⟩ := List.cons.inj last_eq
          exact addEntry_changesKey true _ found.1

end MeterWatch.Toml
