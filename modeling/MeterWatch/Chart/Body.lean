import MeterWatch.Chart.Summary
import MeterWatch.Json.Container

/-!
# Bodies of chart responses

A body is an object with the member `rows`, or a list that holds only the rows.
A row is a list of a label and a number.
-/

namespace MeterWatch

open Json

def readChartRow (text : List Char) : Except Fault (ChartRow × List Char) := do
  let expected := "a tuple of size 2"
  let elements ← openList expected text
  let (label, rest) ← elementAt expected 0 readString elements
  let (value, rest) ← elementAt expected 1 readNumber rest
  return ({ label, value }, ← endList rest)

namespace ChartBody

abbrev Rows := List ChartRow

def member (rows : Option Rows) (key : List Char) (text : List Char) :
    Except Fault (Option Rows × List Char) := do
  match String.ofList key with
  | "rows" =>
      if rows.isSome then duplicate "rows" text
      else
        let (rows, rest) ← readList readChartRow (← colon text)
        return (some rows, rest)
  | _ => return (rows, ← skipMember text)

def readObject (text : List Char) : Except Fault (Rows × List Char) := do
  let (rows, rest) ← readMembers member none text
  match rows with
  | some rows => return (rows, rest)
  | none => faultBefore (.missingField "rows") rest

def readElements (text : List Char) : Except Fault (Rows × List Char) := do
  let expected := "struct ChartData with 1 element"
  let (rows, rest) ← elementAt expected 0 (readList readChartRow) text
  return (rows, ← endList rest)

def read (text : List Char) : Except Fault (Rows × List Char) :=
  match skipBlanks text with
  | [] => faultAt .endInValue []
  | '\x7b' :: rest => readObject rest
  | '[' :: rest => readElements rest
  | other => wrongType "struct ChartData" other

def rows (body : String) : Except String Rows :=
  let text := body.toList
  match readDocument read text with
  | .ok rows => .ok rows
  | .error fault => .error (fault.message text)

end ChartBody

end MeterWatch
