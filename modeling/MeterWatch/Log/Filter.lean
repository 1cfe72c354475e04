import MeterWatch.Log.Record

/-!
# Log filters

A filter is a list of directives between commas.  A directive names a level, a
target, or both.  Of the directives whose target starts the target of a record,
the one with the longest target decides about the record.
-/

namespace MeterWatch.Log

/-- Records are written up to this much detail of a target. -/
structure Directive where
  target : Option String
  detail : Nat
  deriving DecidableEq, Repr

abbrev Filter := List Directive

/-! ## Reading -/

/-- Levels are named in any case, or numbered; zero is off. -/
def detailOf? (level : String) : Option Nat :=
  match String.ofList (level.toList.map Char.toLower) with
  | "off" | "0" => some 0
  | "error" | "1" => some 1
  | "warn" | "2" => some 2
  | "info" | "3" => some 3
  | "debug" | "4" => some 4
  | "trace" | "5" => some 5
  | _ => none

def fullDetail : Nat := 5

def startsTarget (c : Char) : Bool :=
  c == '-' || c == ':' || c == '_' || c.isAlphanum || 0x80 ≤ c.toNat

/-- A word that is no level is a target; without a level it is shown in full. -/
def directive? (text : List Char) : Option Directive :=
  if !(text.head?.any startsTarget) then none
  else
    let name := String.ofList (text.takeWhile (· != '='))
    match text.dropWhile (· != '=') with
    | [] =>
        match detailOf? name with
        | some detail => some ⟨none, detail⟩
        | none => some ⟨some name, fullDetail⟩
    | [_] => some ⟨some name, fullDetail⟩
    | _ :: level => do
        let detail ← detailOf? (String.ofList level)
        return ⟨some name, detail⟩

/-- Without any directive, only errors are written. -/
def Filter.parse? (text : String) : Option Filter := do
  let parts := (text.splitOn ",").filter (!·.isEmpty)
  let directives ← parts.mapM fun part => directive? part.toList
  return if directives.isEmpty then [⟨none, 1⟩] else directives

def Filter.choose (environment : Option String) (setting : String) : Filter :=
  let fallback := [Directive.mk none Level.info.detail]
  match environment.bind Filter.parse? with
  | some filter => filter
  | none => (Filter.parse? setting).getD fallback

/-! ## Filtering -/

def Directive.covers (directive : Directive) (target : String) : Bool :=
  (directive.target.getD "").toList.isPrefixOf target.toList

/-- How closely a directive describes the targets that it covers. -/
def Directive.weight (directive : Directive) : Nat :=
  match directive.target with
  | some target => target.length + 1
  | none => 0

/-- Of two directives with the same target the later one counts. -/
def closer (best : Option Directive) (directive : Directive) :
    Option Directive :=
  match best with
  | some held =>
      if directive.weight < held.weight then some held else some directive
  | none => some directive

def Filter.detail (filter : Filter) (target : String) : Nat :=
  let covering := filter.filter (·.covers target)
  match covering.foldl closer none with
  | some directive => directive.detail
  | none => 0

def Filter.passes (filter : Filter) (record : Record) : Bool :=
  record.level.detail ≤ filter.detail record.writer.target

end MeterWatch.Log
