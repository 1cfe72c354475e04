import MeterWatch.Failure
import MeterWatch.Json.Container

/-!
# Bodies of poll responses

A body is an object with the members `log`, `delay` and `ts`, or a list of the
three in this order.  `sleep` is another name of `delay`, and `ts` may be left
out or null: the start of the last entry is the cursor then.
-/

namespace MeterWatch

open Json

/-! ## Fields -/

structure PollResponse where
  log : List Entry
  delay : Binary64
  ts : Option Binary64
  deriving DecidableEq, Repr

structure PartialResponse where
  log : Option (List Entry)
  delay : Option Binary64
  ts : Option (Option Binary64)
  deriving DecidableEq, Repr

/-- An entry is a list of two numbers and a line. -/
def readEntry (text : List Char) : Except Fault (Entry × List Char) := do
  let expected := "a tuple of size 3"
  let elements ← openList expected text
  let (readStart, rest) ← elementAt expected 0 readNumber elements
  let (readDuration, rest) ← elementAt expected 1 readNumber rest
  let (line, rest) ← elementAt expected 2 readString rest
  return ({ readStart, readDuration, line }, ← endList rest)

namespace PollResponse

def member (fields : PartialResponse) (key : List Char) (text : List Char) :
    Except Fault (PartialResponse × List Char) := do
  match String.ofList key with
  | "log" =>
      if fields.log.isSome then duplicate "log" text
      else
        let (log, rest) ← readList readEntry (← colon text)
        return ({ fields with log := some log }, rest)
  | "delay" | "sleep" =>
      if fields.delay.isSome then duplicate "delay" text
      else
        let (delay, rest) ← readNumber (← colon text)
        return ({ fields with delay := some delay }, rest)
  | "ts" =>
      if fields.ts.isSome then duplicate "ts" text
      else
        let (ts, rest) ← readOptional readNumber (← colon text)
        return ({ fields with ts := some ts }, rest)
  | _ => return (fields, ← skipMember text)

/-- Of two missing fields the log is named. -/
def complete (fields : PartialResponse) (rest : List Char) :
    Except Fault PollResponse :=
  match fields.log, fields.delay with
  | some log, some delay =>
      .ok { log, delay, ts := fields.ts.getD none }
  | none, _ => faultBefore (.missingField "log") rest
  | some _, none => faultBefore (.missingField "delay") rest

def readObject (text : List Char) :
    Except Fault (PollResponse × List Char) := do
  let (fields, rest) ← readMembers member ⟨none, none, none⟩ text
  return (← complete fields rest, rest)

def readElements (text : List Char) :
    Except Fault (PollResponse × List Char) := do
  let expected := "struct PollResponse with 3 elements"
  let (log, rest) ← elementAt expected 0 (readList readEntry) text
  let (delay, rest) ← elementAt expected 1 readNumber rest
  match ← nextElement false rest with
  | none => return ({ log, delay, ts := none }, ← endList rest)
  | some element =>
      let (ts, rest) ← readOptional readNumber element
      return ({ log, delay, ts }, ← endList rest)

def read (text : List Char) : Except Fault (PollResponse × List Char) :=
  match skipBlanks text with
  | [] => faultAt .endInValue []
  | '\x7b' :: rest => readObject rest
  | '[' :: rest => readElements rest
  | other => wrongType "struct PollResponse" other

/-! ## Batches -/

def cursor (response : PollResponse) : Option Cursor :=
  match response.ts with
  | some ts => some ⟨ts⟩
  | none => response.log.getLast?.map fun entry => ⟨entry.readStart⟩

def toBatch (response : PollResponse) : Reply :=
  match Duration.ofBinary64? response.delay with
  | some delay =>
      .ok { entries := response.log, delay, cursor := response.cursor }
  | none => .error (.invalidDelay response.delay)

end PollResponse

/-- The batch that the body of a response stands for. -/
def Batch.ofBody (body : String) : Reply :=
  let text := body.toList
  match readDocument PollResponse.read text with
  | .ok response => response.toBatch
  | .error fault => .error (.malformed (fault.message text))

end MeterWatch
