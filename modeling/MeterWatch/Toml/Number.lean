import MeterWatch.Toml.Text

/-!
# TOML numbers

Digits may be separated by single underscores.  Whole numbers have 64 bits;
numbers with a fraction or an exponent are rounded to the nearest one and must
not overflow upwards.
-/

namespace MeterWatch.Toml

/-! ## Digits -/

/-- What follows a digit: more digits, each after an underscore at most. -/
def moreDigits (isDigit : Char → Bool) : Reader (List Char)
  | '_' :: c :: rest =>
      if isDigit c then do
        let (digits, rest) ← moreDigits isDigit rest
        return (c :: digits, rest)
      else none
  | c :: rest =>
      if isDigit c then do
        let (digits, rest) ← moreDigits isDigit rest
        return (c :: digits, rest)
      else if c = '_' then none
      else some ([], c :: rest)
  | [] => some ([], [])

def digits (isDigit : Char → Bool) : Reader (List Char)
  | c :: rest =>
      if isDigit c then do
        let (digits, rest) ← moreDigits isDigit rest
        return (c :: digits, rest)
      else none
  | [] => none

def splitSign : List Char → Bool × List Char
  | '-' :: rest => (true, rest)
  | '+' :: rest => (false, rest)
  | text => (false, text)

/-- A zero stands alone. -/
def wholeDigits (text : List Char) : Option (List Char × List Char) :=
  match text with
  | '0' :: rest => some (['0'], rest)
  | _ => digits Char.isDigit text

/-! ## Whole numbers -/

/-- Whole numbers have 64 bits. -/
def int64? (number : Int) : Option Int :=
  let limit := 0x8000000000000000
  if -limit ≤ number ∧ number < limit then some number else none

def isBinaryDigit (c : Char) : Bool := c == '0' || c == '1'

def isOctalDigit (c : Char) : Bool := '0' ≤ c && c ≤ '7'

def valueInBase (base : Nat) (digits : List Char) : Nat :=
  digits.foldl
    (fun value digit => base * value + (hexDigitValue? digit).getD 0) 0

def basedInteger (base : Nat) (isDigit : Char → Bool) (text : List Char) :
    Option (Int × List Char) := do
  let (run, rest) ← digits isDigit text
  return (← int64? (valueInBase base run), rest)

def decimalInteger (text : List Char) : Option (Int × List Char) := do
  let (negative, unsigned) := splitSign text
  let (run, rest) ← wholeDigits unsigned
  let size : Int := digitsValue run
  return (← int64? (if negative then -size else size), rest)

def integer : Reader Int
  | '0' :: 'x' :: rest => basedInteger 16 isHexDigit rest
  | '0' :: 'o' :: rest => basedInteger 8 isOctalDigit rest
  | '0' :: 'b' :: rest => basedInteger 2 isBinaryDigit rest
  | text => decimalInteger text

/-! ## Other numbers -/

def fraction : Reader (List Char)
  | '.' :: rest => digits Char.isDigit rest
  | _ => none

def exponent (text : List Char) : Option (Int × List Char) :=
  match text with
  | mark :: rest =>
      if Numeral.isExponentMark mark then do
        let (negative, unsigned) := splitSign rest
        let (run, rest) ← digits Char.isDigit unsigned
        let size : Int := digitsValue run
        return (if negative then -size else size, rest)
      else none
  | [] => none

def fractionAndExponent (text : List Char) :
    Option ((List Char × Int) × List Char) :=
  match fraction text with
  | some (places, rest) =>
      match exponent rest with
      | some (size, rest) => some ((places, size), rest)
      | none => some ((places, 0), rest)
  | none => do
      let (size, rest) ← exponent text
      return (([], size), rest)

def finiteReal (text : List Char) : Option (Binary64 × List Char) := do
  let (negative, unsigned) := splitSign text
  let (whole, rest) ← wholeDigits unsigned
  let ((places, size), rest) ← fractionAndExponent rest
  let value := Numeral.value ⟨negative, whole, places, size⟩
  if value = .infinite false then none
  return (value, rest)

def namedReal (text : List Char) : Option (Binary64 × List Char) :=
  let (negative, unsigned) := splitSign text
  match unsigned with
  | 'i' :: 'n' :: 'f' :: rest => some (.infinite negative, rest)
  | 'n' :: 'a' :: 'n' :: rest => some (.nan, rest)
  | _ => none

def real (text : List Char) : Option (Binary64 × List Char) :=
  finiteReal text <|> namedReal text

end MeterWatch.Toml
