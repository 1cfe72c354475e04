import MeterWatch.Binary64.Arithmetic
import MeterWatch.Decimal.Numeral
import MeterWatch.Line.Pattern
import MeterWatch.Reading
import MeterWatch.Text.Blank
import MeterWatch.Text.DecimalDigit

/-!
# Demand records

A smart meter reports kilowatts as a scaled whole number.  Its record opens
with a tag, and four elements follow in a fixed order with gaps between them.
A gap runs over any text of the same line and is as short as possible; when
the rest of the record is not found behind it, a longer gap is tried.
-/

namespace MeterWatch.Line

open Text

/-! ## Elements -/

def hexNumber? (text : List Char) : Option (List Char × List Char) := do
  let digits ← after? "0x" text
  let (run, rest) ← run? isHexDigit digits
  return ('0' :: 'x' :: run, rest)

def number? (text : List Char) : Option (List Char × List Char) :=
  match hexNumber? text with
  | some found => some found
  | none => run? isDecimalDigit text

/-- The number of an element at this place, and the text after the element. -/
def element? (name : String) (text : List Char) :
    Option (List Char × List Char) := do
  let content ← after? ("<" ++ name ++ ">") text
  let (number, rest) ← number? (content.dropWhile isBlank)
  let rest ← after? ("</" ++ name ++ ">") (rest.dropWhile isBlank)
  return (number, rest)

/-! ## Records -/

/-- What is read behind the shortest gap that makes the reader succeed. -/
def afterGap? {α : Type} (read? : List Char → Option α) :
    List Char → Option α
  | [] => read? []
  | c :: rest =>
      match read? (c :: rest) with
      | some found => some found
      | none => if c = '\n' then none else afterGap? read? rest

/-- An element behind a gap, then whatever is read after it. -/
def elementThen? {α : Type} (name : String)
    (next? : List Char → List Char → Option α) : List Char → Option α :=
  afterGap? fun text => do
    let (number, rest) ← element? name text
    next? number rest

/-- The numbers of a record as they are written. -/
structure DemandFields where
  time : List Char
  demand : List Char
  multiplier : List Char
  divisor : List Char
  deriving DecidableEq, Repr

def demandFields? (text : List Char) : Option DemandFields := do
  let record ← after? "<InstantaneousDemand>" text
  elementThen? "TimeStamp" (fun time =>
    elementThen? "Demand" fun demand =>
      elementThen? "Multiplier" fun multiplier =>
        elementThen? "Divisor" fun divisor _ =>
          some ⟨time, demand, multiplier, divisor⟩) record

/-! ## Readings -/

/-- A number as it is written in an element. -/
def readNumber? (text : List Char) : Option Nat :=
  match after? "0x" text with
  | some digits => readHex? digits
  | none => readDecimal? text

/-- Demand in watts, rounded after each step. -/
def scaledWatts (demand multiplier divisor : Nat) : Binary64 :=
  .ofNat demand * .ofNat multiplier / .ofNat divisor * .ofNat 1000

/-- A multiplier or divisor of zero means that there is none. -/
def DemandFields.reading? (fields : DemandFields) : Option Reading := do
  let seconds ← readNumber? fields.time
  let demand ← readNumber? fields.demand
  let multiplier ← readNumber? fields.multiplier
  let divisor ← readNumber? fields.divisor
  let time ← Instant.ofSeconds? seconds
  return .demand (scaledWatts demand (max multiplier 1) (max divisor 1)) time

def demandReading? (line : List Char) : Option Reading := do
  let fields ← leftmost? demandFields? line
  fields.reading?

end MeterWatch.Line
