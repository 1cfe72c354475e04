import MeterWatch.Url.Basic
import MeterWatch.Url.Domain
import MeterWatch.Url.Percent

/-!
# Reading hosts

The host of a web address is a domain or an address of one of two kinds.  A
domain whose last label is a number must be an address.  Hosts of other schemes
are taken as they are.
-/

namespace MeterWatch.Url

open Text (splitOn)

/-! ## IPv4 -/

def octalValue (digits : List Char) : Nat :=
  digits.foldl (fun value digit => 8 * value + (digit.toNat - '0'.toNat)) 0

def isOctalDigit (c : Char) : Bool := '0' ≤ c && c ≤ '7'

/-- A number in base ten, or in base sixteen or eight if it starts so. -/
def ipv4Number? (part : List Char) : Option Nat :=
  match part with
  | [] => none
  | '0' :: 'x' :: digits | '0' :: 'X' :: digits =>
      if digits.all isHexDigit then some (hexValue digits) else none
  | '0' :: second :: rest =>
      if (second :: rest).all isOctalDigit then
        some (octalValue (second :: rest))
      else none
  | digits =>
      if digits.all Char.isDigit then some (digitsValue digits) else none

/-- The labels of a domain without the empty one after a final point. -/
def labels (domain : List Char) : List (List Char) :=
  let parts := splitOn (· == '.') domain
  if 1 < parts.length ∧ parts.getLast? = some [] then parts.dropLast
  else parts

def endsInNumber (domain : List Char) : Bool :=
  match (labels domain).getLast? with
  | some [] | none => false
  | some last => last.all Char.isDigit || (ipv4Number? last).isSome

/-- The last number fills all bytes that the others leave over. -/
def ipv4? (domain : List Char) : Option Nat := do
  let numbers ← (labels domain).mapM ipv4Number?
  let last ← numbers.getLast?
  let first := numbers.dropLast
  if 3 < first.length || first.any (255 < ·) ||
      Nat.pow 256 (4 - first.length) ≤ last then none
  let high := first.foldl (fun address number => 256 * address + number) 0
  return high * Nat.pow 256 (4 - first.length) + last

/-! ## IPv6 -/

def hexPiece? (group : List Char) : Option Nat :=
  if !group.isEmpty && group.length ≤ 4 && group.all isHexDigit then
    some (hexValue group)
  else none

/-- A number below 256 without leading zeros. -/
def dottedByte? (part : List Char) : Option Nat :=
  let canonical := part.length = 1 ∨ part.head? ≠ some '0'
  if !part.isEmpty && part.all Char.isDigit && canonical &&
      digitsValue part < 256 then
    some (digitsValue part)
  else none

/-- Four bytes in dotted form are two pieces. -/
def dottedPieces? (group : List Char) : Option (List Nat) := do
  match ← (splitOn (· == '.') group).mapM dottedByte? with
  | [a, b, c, d] => some [256 * a + b, 256 * c + d]
  | _ => none

/-- The pieces of groups between colons; the last group may be dotted. -/
def groupPieces? (dotted : Bool) : List (List Char) → Option (List Nat)
  | [] => some []
  | [group] =>
      match hexPiece? group with
      | some piece => some [piece]
      | none => if dotted then dottedPieces? group else none
  | group :: rest => do
      let piece ← hexPiece? group
      return piece :: (← groupPieces? dotted rest)

def pieces? (dotted : Bool) (text : List Char) : Option (List Nat) :=
  if text.isEmpty then some []
  else groupPieces? dotted (splitOn (· == ':') text)

/-- The texts on both sides of the first double colon. -/
def splitDoubleColon? : List Char → Option (List Char × List Char)
  | [] => none
  | ':' :: ':' :: rest => some ([], rest)
  | c :: rest => (splitDoubleColon? rest).map fun (left, right) =>
      (c :: left, right)

/-- A double colon stands for as many zeros as are missing, at least one. -/
def ipv6? (text : List Char) : Option (List Nat) :=
  match splitDoubleColon? text with
  | none => do
      let pieces ← pieces? true text
      if pieces.length = 8 then some pieces else none
  | some (left, right) => do
      let before ← pieces? false left
      let behind ← pieces? true right
      let known := before.length + behind.length
      if 7 < known then none
      else some (before ++ List.replicate (8 - known) 0 ++ behind)

/-! ## Hosts -/

def bracketed? (text : List Char) : Option (Option (List Char)) :=
  match text with
  | '[' :: rest =>
      if rest.getLast? = some ']' then some (some rest.dropLast)
      else some none
  | _ => none

def webHost? (text : List Char) : Option Host :=
  match bracketed? text with
  | some inner => do return .ipv6 (← ipv6? (← inner))
  | none => do
      let domain ← asciiDomain? (← decode? text)
      if domain.isEmpty then none
      else if endsInNumber domain then return .ipv4 (← ipv4? domain)
      else return .named domain

def isForbiddenInHost (c : Char) : Bool :=
  c ∈ ['\x00', '\t', '\n', '\r', ' ', '#', '/', ':', '<', '>', '?', '@', '[',
    '\\', ']', '^', '|']

def otherHost? (text : List Char) : Option Host :=
  match bracketed? text with
  | some inner => do return .ipv6 (← ipv6? (← inner))
  | none =>
      if text.any isForbiddenInHost then none
      else some (.named (encode isControl text))

end MeterWatch.Url
