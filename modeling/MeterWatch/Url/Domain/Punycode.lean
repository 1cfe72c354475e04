import MeterWatch.Decimal.Numeral

/-!
# Punycode

A label with characters outside ASCII is written with its ASCII characters
first.  Behind them, numbers of variable length say where the others go, in the
order of their codes.
-/

namespace MeterWatch.Url.Punycode

/-! ## Digits -/

def base : Nat := 36

/-- The letters are the digits from 0 on, and the ASCII digits follow. -/
def digit (value : Nat) : Char :=
  if value < 26 then Char.ofNat (0x61 + value)
  else Char.ofNat (0x30 + value - 26)

def digitValue? (c : Char) : Option Nat :=
  if 'a' ≤ c ∧ c ≤ 'z' then some (c.toNat - 0x61)
  else if 'A' ≤ c ∧ c ≤ 'Z' then some (c.toNat - 0x41)
  else if c.isDigit then some (c.toNat - 0x30 + 26)
  else none

theorem digitValue?_digit {value : Nat} (h : value < base) :
    digitValue? (digit value) = some value := by
  have all : ∀ value < base, digitValue? (digit value) = some value := by
    decide
  exact all value h

/-- A digit below the threshold of its place is the last one of a number. -/
def threshold (bias place : Nat) : Nat := min 26 (max 1 (place - bias))

theorem threshold_pos (bias place : Nat) : 1 ≤ threshold bias place := by
  unfold threshold
  omega

/-! ## Bias -/

def initialBias : Nat := 72

/-- A bias for small numbers, and what is left of the size to account for. -/
def shrink (delta bias : Nat) : Nat :=
  if 455 < delta then shrink (delta / 35) (bias + base)
  else bias + 36 * delta / (delta + 38)
termination_by delta
decreasing_by omega

/-- Numbers are expected to be as large as the one before. -/
def adapt (delta count : Nat) (isFirst : Bool) : Nat :=
  let halved := if isFirst then delta / 700 else delta / 2
  shrink (halved + halved / count) 0

/-! ## Writing -/

def writeNumber (bias place number : Nat) : List Char :=
  let least := threshold bias place
  if number < least then [digit number]
  else
    let rest := number - least
    digit (least + rest % (base - least)) ::
      writeNumber bias (place + base) (rest / (base - least))
termination_by number
decreasing_by
  have positive := threshold_pos bias place
  exact Nat.lt_of_le_of_lt (Nat.div_le_self _ _) (by omega)

structure Writer where
  written : List Char
  delta : Nat
  bias : Nat
  /-- The number of characters that have a place already. -/
  placed : Nat

/-- Passes a character of the label while those of one code are placed. -/
def Writer.pass (basic code : Nat) (writer : Writer) (c : Char) : Writer :=
  if c.toNat < code then { writer with delta := writer.delta + 1 }
  else if c.toNat = code then
    { written := writer.written ++ writeNumber writer.bias base writer.delta
      delta := 0
      bias := adapt writer.delta (writer.placed + 1) (writer.placed == basic)
      placed := writer.placed + 1 }
  else writer

/-- Places the characters of each code in turn, from a code on. -/
def writeCodes (label : List Char) (basic : Nat) :
    Nat → Writer → List Nat → Writer
  | _, writer, [] => writer
  | next, writer, code :: codes =>
      let skipped := (code - next) * (writer.placed + 1)
      let started := { writer with delta := writer.delta + skipped }
      let passed := label.foldl (Writer.pass basic code) started
      writeCodes label basic (code + 1)
        { passed with delta := passed.delta + 1 } codes

/-- The codes outside ASCII, each once, in increasing order. -/
def foreignCodes (label : List Char) : List Nat :=
  ((label.map Char.toNat).filter (0x80 ≤ ·)).mergeSort.eraseDups

def encode (label : List Char) : List Char :=
  let basic := label.filter (·.toNat < 0x80)
  let start : Writer := ⟨[], 0, initialBias, basic.length⟩
  let writer := writeCodes label basic.length 0x80 start (foreignCodes label)
  let delimited := if basic.isEmpty then [] else basic ++ ['-']
  delimited ++ writer.written

/-! ## Reading -/

/-- A number, from a place of some weight on, and what follows it. -/
def readNumber? (bias : Nat) :
    Nat → Nat → List Char → Option (Nat × List Char)
  | _, _, [] => none
  | place, weight, c :: rest => do
      let value ← digitValue? c
      let least := threshold bias place
      if value < least then return (value * weight, rest)
      let (number, rest) ←
        readNumber? bias (place + base) (weight * (base - least)) rest
      return (value * weight + number, rest)

def charOf? (code : Nat) : Option Char :=
  if code.isValidChar then some (Char.ofNat code) else none

/-- Adds characters to a label, from a code and an index on. -/
def readCodes? :
    Nat → Nat → Nat → Nat → List Char → List Char → Option (List Char)
  | _, _, _, _, label, [] => some label
  | 0, _, _, _, _, _ => none
  | fuel + 1, code, index, bias, label, text => do
      let (delta, rest) ← readNumber? bias base 1 text
      let places := label.length + 1
      let next := code + (index + delta) / places
      let place := (index + delta) % places
      let c ← charOf? next
      let bias := adapt delta places (index == 0)
      readCodes? fuel next (place + 1) bias
        (label.take place ++ c :: label.drop place) rest

/-- The last hyphen ends the ASCII characters, if there are any. -/
def decode? (text : List Char) : Option (List Char) :=
  let coded := (text.reverse.takeWhile (· != '-')).reverse
  let basic := text.take (text.length - coded.length - 1)
  let coded := if basic.isEmpty then text else coded
  if basic.all (·.toNat < 0x80) then
    readCodes? coded.length 0x80 0 initialBias basic coded
  else none

end MeterWatch.Url.Punycode
