import MeterWatch.Decimal.Notation
import MeterWatch.Text.Quoted

/-!
# Faults in JSON texts

A fault has a reason and a place.  The place is kept as the number of bytes
behind it, which is known without looking back; line and column are found when
the message is written.
-/

namespace MeterWatch.Json

/-- A value of another type than the one that was expected. -/
inductive Found where
  | null
  | boolean (value : Bool)
  | integer (value : Int)
  | real (value : Binary64)
  | string (text : List Char)
  | sequence
  | map
  deriving DecidableEq, Repr

inductive Reason where
  | endInValue
  | endInList
  | endInObject
  | endInString
  | expectedValue
  | expectedIdent
  | expectedColon
  | expectedCommaOrBracket
  | expectedCommaOrBrace
  | keyNotString
  | trailingComma
  | trailingCharacters
  | invalidNumber
  | numberOutOfRange
  | controlCharacter
  | invalidEscape
  | loneSurrogate
  | unfinishedSurrogate
  | wrongType (found : Found) (expected : String)
  | wrongLength (length : Nat) (expected : String)
  | missingField (name : String)
  | duplicateField (name : String)
  deriving DecidableEq, Repr

structure Fault where
  reason : Reason
  /-- How many bytes of the text lie behind the fault. -/
  bytesLeft : Nat
  deriving DecidableEq, Repr

/-- A reader takes a value off the front of a text. -/
abbrev Reader (α : Type) := List Char → Except Fault (α × List Char)

def byteCount (text : List Char) : Nat := 
  text.foldl (fun count c => count + c.utf8Size) 0

/-- A fault before the remaining text. -/
def faultBefore {α : Type} (reason : Reason) (rest : List Char) :
    Except Fault α :=
  .error ⟨reason, byteCount rest⟩

/-- A fault that takes in the first byte of the remaining text, if any. -/
def faultAt {α : Type} (reason : Reason) (rest : List Char) :
    Except Fault α :=
  .error ⟨reason, byteCount rest - 1⟩

/-! ## Messages -/

def Found.description : Found → String
  | null => "null"
  | boolean value => "boolean `" ++ toString value ++ "`"
  | integer value => "integer `" ++ toString value ++ "`"
  | real value => "floating point `" ++ value.signed ++ "`"
  | string text => "string " ++ String.ofList (Text.quoted text)
  | sequence => "sequence"
  | map => "map"

def Reason.message : Reason → String
  | endInValue => "EOF while parsing a value"
  | endInList => "EOF while parsing a list"
  | endInObject => "EOF while parsing an object"
  | endInString => "EOF while parsing a string"
  | expectedValue => "expected value"
  | expectedIdent => "expected ident"
  | expectedColon => "expected `:`"
  | expectedCommaOrBracket => "expected `,` or `]`"
  | expectedCommaOrBrace => "expected `,` or `\x7d`"
  | keyNotString => "key must be a string"
  | trailingComma => "trailing comma"
  | trailingCharacters => "trailing characters"
  | invalidNumber => "invalid number"
  | numberOutOfRange => "number out of range"
  | controlCharacter =>
      "control character (\\u0000-\\u001F) found while parsing a string"
  | invalidEscape => "invalid escape"
  | loneSurrogate => "lone leading surrogate in hex escape"
  | unfinishedSurrogate => "unexpected end of hex escape"
  | wrongType found expected =>
      "invalid type: " ++ found.description ++ ", expected " ++ expected
  | wrongLength length expected =>
      "invalid length " ++ toString length ++ ", expected " ++ expected
  | missingField name => "missing field `" ++ name ++ "`"
  | duplicateField name => "duplicate field `" ++ name ++ "`"

/-- A line, counted from one, and the bytes before a place on that line. -/
structure Position where
  line : Nat
  column : Nat
  deriving DecidableEq, Repr

/-- The position that lies a number of bytes further on in a text. -/
def Position.advance (position : Position) : Nat → List Char → Position
  | _, [] => position
  | bytes, c :: rest =>
      if bytes = 0 then position
      else if c = '\n' then
        Position.advance ⟨position.line + 1, 0⟩ (bytes - 1) rest
      else
        Position.advance
          ⟨position.line, position.column + min bytes c.utf8Size⟩
          (bytes - c.utf8Size) rest

def Fault.position (text : List Char) (fault : Fault) : Position :=
  Position.advance ⟨1, 0⟩ (byteCount text - fault.bytesLeft) text

def Fault.message (text : List Char) (fault : Fault) : String :=
  let position := fault.position text
  fault.reason.message ++ " at line " ++ toString position.line ++
    " column " ++ toString position.column

end MeterWatch.Json
