import MeterWatch.Json.Fault
import MeterWatch.Decimal.Numeral

/-!
# JSON strings

Strings are read from behind their opening quote.  A string that is skipped is
checked less strictly: its surrogates need not be paired.
-/

namespace MeterWatch.Json

/-! ## Escapes -/

def simpleEscape? : Char → Option Char
  | '"' => some '"'
  | '\\' => some '\\'
  | '/' => some '/'
  | 'b' => some '\x08'
  | 'f' => some '\x0c'
  | 'n' => some '\n'
  | 'r' => some '\r'
  | 't' => some '\t'
  | _ => none

def hexUnit : Reader Nat
  | a :: b :: c :: d :: rest =>
      let digits := [a, b, c, d]
      if digits.all isHexDigit then .ok (hexValue digits, rest)
      else .error ⟨.invalidEscape, byteCount (a :: b :: c :: d :: rest) - 4⟩
  | text =>
      if byteCount text < 4 then .error ⟨.endInString, 0⟩
      else .error ⟨.invalidEscape, byteCount text - 4⟩

def isLeadingSurrogate (unit : Nat) : Bool := 0xD800 ≤ unit && unit ≤ 0xDBFF

def isTrailingSurrogate (unit : Nat) : Bool := 0xDC00 ≤ unit && unit ≤ 0xDFFF

def joinSurrogates (leading trailing : Nat) : Char :=
  Char.ofNat (0x10000 + (leading - 0xD800) * 0x400 + (trailing - 0xDC00))

def trailingEscape (leading : Nat) : Reader Char
  | [] => .error ⟨.endInString, 0⟩
  | '\\' :: [] => .error ⟨.endInString, 0⟩
  | '\\' :: 'u' :: rest => do
      let (trailing, rest) ← hexUnit rest
      if isTrailingSurrogate trailing then
        .ok (joinSurrogates leading trailing, rest)
      else faultBefore .loneSurrogate rest
  | '\\' :: rest => faultAt .unfinishedSurrogate rest
  | text => faultAt .unfinishedSurrogate text

def numberedEscape (text : List Char) : Except Fault (Char × List Char) := do
  let (unit, rest) ← hexUnit text
  if isTrailingSurrogate unit then faultBefore .loneSurrogate rest
  else if isLeadingSurrogate unit then trailingEscape unit rest
  else .ok (Char.ofNat unit, rest)

def escape : Reader Char
  | [] => .error ⟨.endInString, 0⟩
  | 'u' :: rest => numberedEscape rest
  | c :: rest =>
      match simpleEscape? c with
      | some escaped => .ok (escaped, rest)
      | none => faultAt .invalidEscape (c :: rest)

/-! ## Strings -/

def isControl (c : Char) : Bool := c.toNat < 0x20

/-- The length of the text bounds the number of characters. -/
def stringWithin : Nat → List Char → Reader (List Char)
  | 0, _, _ => .error ⟨.endInString, 0⟩
  | _ + 1, _, [] => .error ⟨.endInString, 0⟩
  | fuel + 1, reversed, c :: rest =>
      if c = '"' then .ok (reversed.reverse, rest)
      else if c = '\\' then
        match escape rest with
        | .ok (escaped, rest) => stringWithin fuel (escaped :: reversed) rest
        | .error fault => .error fault
      else if isControl c then faultAt .controlCharacter (c :: rest)
      else stringWithin fuel (c :: reversed) rest

def string (text : List Char) : Except Fault (List Char × List Char) :=
  stringWithin (text.length + 1) [] text

/-! ## Skipped strings -/

def skipEscape : List Char → Except Fault (List Char)
  | [] => .error ⟨.endInString, 0⟩
  | 'u' :: rest => do
      let (_, rest) ← hexUnit rest
      .ok rest
  | c :: rest =>
      match simpleEscape? c with
      | some _ => .ok rest
      | none => faultAt .invalidEscape (c :: rest)

def skipStringWithin : Nat → List Char → Except Fault (List Char)
  | 0, _ => .error ⟨.endInString, 0⟩
  | _ + 1, [] => .error ⟨.endInString, 0⟩
  | fuel + 1, c :: rest =>
      if c = '"' then .ok rest
      else if c = '\\' then
        match skipEscape rest with
        | .ok rest => skipStringWithin fuel rest
        | .error fault => .error fault
      else if isControl c then faultBefore .controlCharacter (c :: rest)
      else skipStringWithin fuel rest

def skipString (text : List Char) : Except Fault (List Char) :=
  skipStringWithin (text.length + 1) text

end MeterWatch.Json
