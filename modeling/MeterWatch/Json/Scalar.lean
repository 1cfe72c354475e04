import MeterWatch.Json.Blank
import MeterWatch.Json.Number
import MeterWatch.Json.Text

/-!
# Values of a known type

A value of another type is read as far as it is needed to name it.
-/

namespace MeterWatch.Json

/-- A scalar is named after it has been read, a container before. -/
def wrongType {α : Type} (expected : String) (text : List Char) :
    Except Fault α :=
  let fault (found : Found) (rest : List Char) : Except Fault α :=
    faultBefore (.wrongType found expected) rest
  match text with
  | 'n' :: rest => do fault .null (← word "ull".toList rest)
  | 't' :: rest => do fault (.boolean true) (← word "rue".toList rest)
  | 'f' :: rest => do fault (.boolean false) (← word "alse".toList rest)
  | '-' :: rest => do
      let (number, rest) ← unsignedNumber true rest
      fault number.found rest
  | '"' :: rest => do
      let (content, rest) ← string rest
      fault (.string content) rest
  | '[' :: _ => fault .sequence text
  | '\x7b' :: _ => fault .map text
  | _ =>
      if startsWithDigit text then do
        let (number, rest) ← unsignedNumber false text
        fault number.found rest
      else faultAt .expectedValue text

def readNumber (text : List Char) : Except Fault (Binary64 × List Char) := do
  match skipBlanks text with
  | [] => faultAt .endInValue []
  | '-' :: rest =>
      let (number, rest) ← unsignedNumber true rest
      return (number.value, rest)
  | other =>
      if startsWithDigit other then
        let (number, rest) ← unsignedNumber false other
        return (number.value, rest)
      else wrongType "f64" other

def readString (text : List Char) : Except Fault (String × List Char) := do
  match skipBlanks text with
  | [] => faultAt .endInValue []
  | '"' :: rest =>
      let (content, rest) ← string rest
      return (String.ofList content, rest)
  | other => wrongType "a string" other

def readOptional {α : Type} (read : Reader α) (text : List Char) :
    Except Fault (Option α × List Char) := do
  match skipBlanks text with
  | 'n' :: rest => return (none, ← word "ull".toList rest)
  | other =>
      let (value, rest) ← read other
      return (some value, rest)

end MeterWatch.Json
