import MeterWatch.Binary64.Basic

/-!
# TOML values

A document is a table.  Tables remember how they came about, because that
decides in which ways they may still be extended.
-/

namespace MeterWatch.Toml

abbrev Key := List Char

inductive TableKind where
  /-- Written between braces; it is complete. -/
  | inline
  /-- Opened by a header of its own. -/
  | header
  /-- Only named on the way to another header. -/
  | implied
  /-- Only named inside a dotted key. -/
  | dotted
  deriving DecidableEq, Repr

inductive Value where
  | string (text : List Char)
  | integer (number : Int)
  | real (number : Binary64)
  | boolean (value : Bool)
  /-- Dates and times are checked, and dropped. -/
  | time
  | array (items : List Value)
  /-- Tables under headers with double brackets. -/
  | tables (items : List Value)
  | table (kind : TableKind) (entries : List (Key × Value))
  deriving Inhabited

abbrev Entries := List (Key × Value)

/-! ## Entries -/

/-- Replaces the value of a key, or adds the key at the end. -/
def setEntry (key : Key) (value : Value) : Entries → Entries
  | [] => [(key, value)]
  | (other, old) :: rest =>
      if other = key then (key, value) :: rest
      else (other, old) :: setEntry key value rest

def hasKey (key : Key) (entries : Entries) : Bool :=
  (entries.lookup key).isSome

/-! ## Paths -/

/-- What may be done to a table at the end of a path. -/
abbrev Change := TableKind → Entries → Option Entries

/-- Whether a key path may run through a table of a kind. -/
def TableKind.isOpenTo (viaDots : Bool) : TableKind → Bool
  | inline => false
  | header => !viaDots
  | implied | dotted => true

/--
Changes the table at the end of a path and creates those that are missing on
the way.  A path through tables with double brackets goes to the last one.
-/
def changeAt (viaDots : Bool) (change : Change) :
    List Key → TableKind → Entries → Option Entries
  | [], kind, entries => change kind entries
  | key :: path, _, entries =>
      match entries.lookup key with
      | none => do
          let kind := if viaDots then TableKind.dotted else .implied
          let inner ← changeAt viaDots change path kind []
          return setEntry key (.table kind inner) entries
      | some (.table kind old) =>
          if kind.isOpenTo viaDots then do
            let inner ← changeAt viaDots change path kind old
            return setEntry key (.table kind inner) entries
          else none
      | some (.tables items) =>
          match items.getLast? with
          | some (.table kind old) => do
              let inner ← changeAt viaDots change path kind old
              let items := items.dropLast ++ [.table kind inner]
              return setEntry key (.tables items) entries
          | _ => none
      | some _ => none

/-- A dotted key must not end in a table that was opened in another way. -/
def addEntry (isDotted : Bool) (key : Key) (value : Value) : Change :=
  fun kind entries =>
    if (kind == .dotted) != isDotted || hasKey key entries then none
    else some (setEntry key value entries)

def addAt (path : List Key) (key : Key) (value : Value) : Change :=
  fun kind entries =>
    changeAt true (addEntry (!path.isEmpty) key value) path kind entries

/-- A table may be opened once. -/
def openTable (key : Key) : Change := fun _ entries =>
  match entries.lookup key with
  | none => some (setEntry key (.table .header []) entries)
  | some (.table .implied inner) =>
      some (setEntry key (.table .header inner) entries)
  | some _ => none

/-- A header with double brackets adds one more table. -/
def pushTable (key : Key) : Change := fun _ entries =>
  match entries.lookup key with
  | none => some (setEntry key (.tables [.table .header []]) entries)
  | some (.tables items) =>
      some (setEntry key (.tables (items ++ [.table .header []])) entries)
  | some _ => none

end MeterWatch.Toml
