import MeterWatch.Json.Scalar
import MeterWatch.Json.Skip

/-!
# Lists and objects of a known shape

A shape is read element by element or member by member.  What is wrong with
the shape as a whole is found at its end.
-/

namespace MeterWatch.Json

/-! ## Elements -/

/-- The text of the next element, or nothing before the closing bracket. -/
def nextElement (first : Bool) (text : List Char) :
    Except Fault (Option (List Char)) :=
  match skipBlanks text with
  | [] => faultAt .endInList []
  | ']' :: _ => .ok none
  | c :: rest =>
      if first then .ok (some (c :: rest))
      else if c = ',' then
        match skipBlanks rest with
        | [] => faultAt .endInValue []
        | ']' :: rest => faultAt .trailingComma (']' :: rest)
        | other => .ok (some other)
      else faultAt .expectedCommaOrBracket (c :: rest)

/-- The closing bracket after the last element that was asked for. -/
def endList (text : List Char) : Except Fault (List Char) :=
  match skipBlanks text with
  | [] => faultAt .endInList []
  | ']' :: rest => .ok rest
  | ',' :: rest =>
      match skipBlanks rest with
      | ']' :: rest => faultAt .trailingComma (']' :: rest)
      | other => faultAt .trailingCharacters other
  | other => faultAt .trailingCharacters other

/-- The length of the text bounds the number of elements. -/
def elementsWithin {α : Type} (read : Reader α) :
    Nat → Bool → Reader (List α)
  | 0, _, _ => .error ⟨.endInList, 0⟩
  | fuel + 1, first, text => do
      match ← nextElement first text with
      | none => return ([], ← endList text)
      | some element =>
          let (value, rest) ← read element
          let (values, rest) ← elementsWithin read fuel false rest
          return (value :: values, rest)

def openList (expected : String) (text : List Char) :
    Except Fault (List Char) :=
  match skipBlanks text with
  | [] => faultAt .endInValue []
  | '[' :: rest => .ok rest
  | other => wrongType expected other

def readList {α : Type} (read : Reader α) (text : List Char) :
    Except Fault (List α × List Char) := do
  let elements ← openList "a sequence" text
  elementsWithin read (elements.length + 1) true elements

/-- An element of a list of fixed length, `index` elements from its start. -/
def elementAt {α : Type} (expected : String) (index : Nat) (read : Reader α)
    (text : List Char) : Except Fault (α × List Char) := do
  match ← nextElement (index == 0) text with
  | some element => read element
  | none => faultBefore (.wrongLength index expected) (← endList text)

/-! ## Members -/

def memberKey (text : List Char) :
    Except Fault (List Char × List Char) :=
  match text with
  | [] => faultAt .endInValue []
  | '"' :: rest => string rest
  | '\x7d' :: rest => faultAt .trailingComma ('\x7d' :: rest)
  | other => faultAt .keyNotString other

/-- The key of the next member, or nothing before the closing brace. -/
def nextKey (first : Bool) (text : List Char) :
    Except Fault (Option (List Char × List Char)) :=
  match skipBlanks text with
  | [] => faultAt .endInObject []
  | '\x7d' :: _ => .ok none
  | c :: rest =>
      if first then some <$> memberKey (c :: rest)
      else if c = ',' then some <$> memberKey (skipBlanks rest)
      else faultAt .expectedCommaOrBrace (c :: rest)

def colon (text : List Char) : Except Fault (List Char) :=
  match skipBlanks text with
  | [] => faultAt .endInObject []
  | ':' :: rest => .ok rest
  | other => faultAt .expectedColon other

def endObject (text : List Char) : Except Fault (List Char) :=
  match skipBlanks text with
  | [] => faultAt .endInObject []
  | '\x7d' :: rest => .ok rest
  | ',' :: rest => faultAt .trailingComma (',' :: rest)
  | other => faultAt .trailingCharacters other

/-- A repeated key is reported behind the blanks and the brace after it. -/
def duplicate {α : Type} (name : String) (text : List Char) :
    Except Fault α :=
  match skipBlanks text with
  | '\x7d' :: rest => faultBefore (.duplicateField name) rest
  | other => faultBefore (.duplicateField name) other

/--
Collects members up to the closing brace.  Each key is handed to `member` with
the text behind it.  The length of the text bounds the number of members.
-/
def membersWithin {σ : Type} (member : σ → List Char → Reader σ) :
    Nat → Bool → σ → Reader σ
  | 0, _, _, _ => .error ⟨.endInObject, 0⟩
  | fuel + 1, first, fields, text => do
      match ← nextKey first text with
      | none => return (fields, ← endObject text)
      | some (key, rest) =>
          let (fields, rest) ← member fields key rest
          membersWithin member fuel false fields rest

def readMembers {σ : Type} (member : σ → List Char → Reader σ) (fields : σ)
    (text : List Char) : Except Fault (σ × List Char) :=
  membersWithin member (text.length + 1) true fields text

def skipMember (text : List Char) : Except Fault (List Char) := do
  skipValue (← colon text)

/-! ## Documents -/

/-- A document is one value with nothing but white space after it. -/
def readDocument {α : Type} (read : Reader α) (text : List Char) :
    Except Fault α := do
  let (value, rest) ← read text
  match skipBlanks rest with
  | [] => return value
  | other => faultAt .trailingCharacters other

end MeterWatch.Json
