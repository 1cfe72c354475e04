import MeterWatch.Binary64.Arithmetic
import MeterWatch.Json.Fault

/-!
# JSON numbers

Whole numbers of 64 bits are kept as such.  Every other number is read as a
significand of 64 bits times a power of ten: digits are gathered as long as
they fit, further ones only count for the exponent, and the significand is
then scaled by one multiplication or division.  The result may differ in its
last bit from the nearest number.
-/

namespace MeterWatch.Json

inductive Number where
  | unsigned (size : Nat)
  /-- Below zero. -/
  | negative (size : Nat)
  | real (value : Binary64)
  deriving DecidableEq, Repr

namespace Number

def value : Number → Binary64
  | unsigned size => .ofNat size
  | negative size => .ofInt (-size)
  | real value => value

def found : Number → Found
  | unsigned size => .integer size
  | negative size => .integer (-size)
  | real value => .real value

end Number

/-! ## Digits -/

/-- Significands have 64 bits. -/
def significandLimit : Nat := 0x10000000000000000

/-- Takes digits in as long as the significand stays below its limit. -/
def gather (significand : Nat) : List Char → Nat × List Char
  | [] => (significand, [])
  | c :: rest =>
      let next := 10 * significand + (c.toNat - '0'.toNat)
      if c.isDigit && next < significandLimit then gather next rest
      else (significand, c :: rest)

def dropDigits (text : List Char) : List Char := text.dropWhile Char.isDigit

def startsWithDigit : List Char → Bool
  | c :: _ => c.isDigit
  | [] => false

/-! ## Scaling -/

def power (exponent : Nat) : Binary64 := .ofDecimal false ⟨1, exponent⟩

def applySign (negative : Bool) (value : Binary64) : Binary64 :=
  if negative then -value else value

/-- Divides by a power of ten, of which 10^308 is the greatest. -/
def scaleDown (value : Binary64) (exponent : Nat) : Binary64 :=
  if exponent ≤ 308 then value / power exponent
  else if exponent ≤ 616 then value / power 308 / power (exponent - 308)
  else .zero false

/-- The value of a significand and an exponent, unless it is too great. -/
def scaled? (significand : Nat) (exponent : Int) : Option Binary64 :=
  let whole := Binary64.ofNat significand
  if exponent < 0 then some (scaleDown whole exponent.natAbs)
  else if significand = 0 then some whole
  else if 308 < exponent then none
  else
    let product := whole * power exponent.toNat
    if product.isFinite then some product else none

def finish (negative : Bool) (significand : Nat) (exponent : Int)
    (rest : List Char) : Except Fault (Number × List Char) :=
  match scaled? significand exponent with
  | some value => .ok (.real (applySign negative value), rest)
  | none => faultBefore .numberOutOfRange rest

/-! ## Exponents -/

/-- Exponents are signed and have 32 bits. -/
def exponentLimit : Nat := 0x80000000

/--
The digits of an exponent.  Where they exceed the limit, only the text after
the digit that does so is returned.
-/
def exponentDigits (exponent : Nat) :
    List Char → Except (List Char) (Nat × List Char)
  | [] => .ok (exponent, [])
  | c :: rest =>
      if c.isDigit then
        let next := 10 * exponent + (c.toNat - '0'.toNat)
        if next < exponentLimit then exponentDigits next rest
        else .error rest
      else .ok (exponent, c :: rest)

def exponentSign : List Char → Bool × List Char
  | '-' :: rest => (true, rest)
  | '+' :: rest => (false, rest)
  | text => (false, text)

def exponentPart (negative : Bool) (significand : Nat) (exponent : Int)
    (text : List Char) : Except Fault (Number × List Char) :=
  let (down, digits) := exponentSign text
  if digits.isEmpty then faultAt .endInValue []
  else if !startsWithDigit digits then faultAt .invalidNumber digits
  else
    match exponentDigits 0 digits with
    | .ok (size, rest) =>
        let exponent := if down then exponent - size else exponent + size
        finish negative significand exponent rest
    | .error rest =>
        if significand ≠ 0 && !down then faultBefore .numberOutOfRange rest
        else
          let zero := applySign negative (.zero false)
          .ok (.real zero, dropDigits rest)

def isExponentMark (c : Char) : Bool := c == 'e' || c == 'E'

def optionalExponent (negative : Bool) (significand : Nat) (exponent : Int)
    (text : List Char) : Except Fault (Number × List Char) :=
  match text with
  | c :: rest =>
      if isExponentMark c then exponentPart negative significand exponent rest
      else finish negative significand exponent text
  | [] => finish negative significand exponent []

/-! ## Whole and fractional parts -/

def fractionPart (negative : Bool) (significand : Nat) (exponent : Int)
    (text : List Char) : Except Fault (Number × List Char) :=
  if text.isEmpty then faultAt .endInValue []
  else if !startsWithDigit text then faultAt .invalidNumber text
  else
    let (gathered, rest) := gather significand text
    let places : Int := text.length - rest.length
    optionalExponent negative gathered (exponent - places) (dropDigits rest)

/-- The greatest size of a negative whole number, 2^63. -/
def negativeLimit : Nat := 0x8000000000000000

def wholeNumber (negative : Bool) (size : Nat) : Number :=
  if !negative then .unsigned size
  else if size = 0 ∨ negativeLimit < size then .real (-Binary64.ofNat size)
  else .negative size

/-- What follows the whole part, of which some digits may not have fitted. -/
def afterWhole (negative : Bool) (significand : Nat) (dropped : Nat)
    (text : List Char) : Except Fault (Number × List Char) :=
  match text with
  | '.' :: rest => fractionPart negative significand dropped rest
  | _ =>
      let marked := match text with
        | c :: _ => isExponentMark c
        | [] => false
      if marked || dropped ≠ 0 then
        optionalExponent negative significand dropped text
      else .ok (wholeNumber negative significand, text)

/-- A number whose sign, if it has one, has been taken. -/
def unsignedNumber (negative : Bool) (text : List Char) :
    Except Fault (Number × List Char) :=
  match text with
  | [] => faultAt .endInValue []
  | '0' :: rest =>
      if startsWithDigit rest then faultAt .invalidNumber rest
      else afterWhole negative 0 0 rest
  | c :: _ =>
      if c.isDigit then
        let (significand, rest) := gather 0 text
        let behind := dropDigits rest
        afterWhole negative significand (rest.length - behind.length) behind
      else faultAt .invalidNumber text

end MeterWatch.Json
