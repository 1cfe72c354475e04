import MeterWatch.Json.Blank
import MeterWatch.Json.Number
import MeterWatch.Json.Text

/-!
# Skipping JSON values

A value that nobody asked for is checked and dropped.  The containers that are
still open are kept on a stack, so nesting may be arbitrarily deep.
-/

namespace MeterWatch.Json

/-! ## Numbers -/

def skipExponent (text : List Char) : Except Fault (List Char) :=
  let (_, digits) := exponentSign text
  if startsWithDigit digits then .ok (dropDigits digits)
  else faultAt .invalidNumber digits

def skipOptionalExponent (text : List Char) : Except Fault (List Char) :=
  match text with
  | c :: rest => if isExponentMark c then skipExponent rest else .ok text
  | [] => .ok []

def skipFraction (text : List Char) : Except Fault (List Char) :=
  match text with
  | '.' :: rest =>
      if startsWithDigit rest then skipOptionalExponent (dropDigits rest)
      else faultAt .invalidNumber rest
  | _ => skipOptionalExponent text

/-- A number whose sign, if it has one, has been taken. -/
def skipUnsigned (text : List Char) : Except Fault (List Char) :=
  match text with
  | '0' :: rest =>
      if startsWithDigit rest then faultAt .invalidNumber rest
      else skipFraction rest
  | _ =>
      if startsWithDigit text then skipFraction (dropDigits text)
      else faultAt .invalidNumber text

/-! ## Containers -/

inductive Container where
  | list
  | object
  deriving DecidableEq, Repr

namespace Container

def close : Container → Char
  | list => ']'
  | object => '\x7d'

def endReason : Container → Reason
  | list => .endInList
  | object => .endInObject

def commaReason : Container → Reason
  | list => .expectedCommaOrBracket
  | object => .expectedCommaOrBrace

end Container

def skipKey (text : List Char) : Except Fault (List Char) :=
  match skipBlanks text with
  | [] => faultAt .endInObject []
  | '"' :: rest => do
      let rest ← skipString rest
      match skipBlanks rest with
      | [] => faultAt .endInObject []
      | ':' :: rest => .ok rest
      | other => faultAt .expectedColon other
  | other => faultAt .keyNotString other

/-- Moves to where the next value of a container starts. -/
def skipToValue (container : Container) (text : List Char) :
    Except Fault (List Char) :=
  match container with
  | .list => .ok text
  | .object => skipKey text

/-! ## Steps -/

/-- Either a value starts here or one has just ended. -/
structure SkipState where
  ended : Bool
  openContainers : List Container
  rest : List Char
  deriving DecidableEq, Repr

def skipOpening (container : Container) (openContainers : List Container)
    (text : List Char) : Except Fault SkipState :=
  match skipBlanks text with
  | [] => faultAt container.endReason []
  | c :: rest =>
      if c = container.close then .ok ⟨true, openContainers, rest⟩
      else do
        let rest ← skipToValue container (c :: rest)
        return ⟨false, container :: openContainers, rest⟩

def skipStart (openContainers : List Container) (text : List Char) :
    Except Fault SkipState :=
  let ended (result : Except Fault (List Char)) := do
    return SkipState.mk true openContainers (← result)
  match skipBlanks text with
  | [] => faultAt .endInValue []
  | 'n' :: rest => ended (word "ull".toList rest)
  | 't' :: rest => ended (word "rue".toList rest)
  | 'f' :: rest => ended (word "alse".toList rest)
  | '-' :: rest => ended (skipUnsigned rest)
  | '"' :: rest => ended (skipString rest)
  | '[' :: rest => skipOpening .list openContainers rest
  | '\x7b' :: rest => skipOpening .object openContainers rest
  | other =>
      if startsWithDigit other then ended (skipUnsigned other)
      else faultAt .expectedValue other

def skipEnd (container : Container) (openContainers : List Container)
    (text : List Char) : Except Fault SkipState :=
  match skipBlanks text with
  | [] => faultAt container.endReason []
  | c :: rest =>
      if c = ',' then do
        let rest ← skipToValue container rest
        return ⟨false, container :: openContainers, rest⟩
      else if c = container.close then .ok ⟨true, openContainers, rest⟩
      else faultAt container.commaReason (c :: rest)

/-- Every step takes a character, so the length of the text bounds them. -/
def skipWithin : Nat → SkipState → Except Fault (List Char)
  | 0, _ => .error ⟨.endInValue, 0⟩
  | fuel + 1, state =>
      if state.ended then
        match state.openContainers with
        | [] => .ok state.rest
        | container :: others =>
            match skipEnd container others state.rest with
            | .ok next => skipWithin fuel next
            | .error fault => .error fault
      else
        match skipStart state.openContainers state.rest with
        | .ok next => skipWithin fuel next
        | .error fault => .error fault

def skipValue (text : List Char) : Except Fault (List Char) :=
  skipWithin (text.length + 2) ⟨false, [], text⟩

end MeterWatch.Json
