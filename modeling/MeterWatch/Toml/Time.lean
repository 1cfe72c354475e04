import MeterWatch.Toml.Text

/-!
# TOML dates and times

A date, a time of day, or both, with or without an offset.  Only their form is
checked; nothing is kept of them.
-/

namespace MeterWatch.Toml

/-- A number of exactly so many digits between two bounds. -/
def numberBetween (size low high : Nat) (text : List Char) :
    Option (Nat × List Char) :=
  let run := text.take size
  let value := digitsValue run
  if run.length = size ∧ run.all Char.isDigit ∧ low ≤ value ∧ value ≤ high then
    some (value, text.drop size)
  else none

def expect (c : Char) : List Char → Option (List Char)
  | first :: rest => if first = c then some rest else none
  | [] => none

def isLeapYear (year : Nat) : Bool :=
  year % 4 == 0 && (year % 100 != 0 || year % 400 == 0)

def daysInMonth (year month : Nat) : Nat :=
  if month = 2 then if isLeapYear year then 29 else 28
  else if month ∈ [4, 6, 9, 11] then 30
  else 31

def date? (text : List Char) : Option (List Char) := do
  let (year, rest) ← numberBetween 4 0 9999 text
  let (month, rest) ← numberBetween 2 1 12 (← expect '-' rest)
  let (_, rest) ← numberBetween 2 1 (daysInMonth year month)
    (← expect '-' rest)
  return rest

/-- A point and at least one digit, if there is a point at all. -/
def subsecond? (text : List Char) : Option (List Char) :=
  match text with
  | '.' :: rest =>
      match rest with
      | c :: _ => if c.isDigit then some (rest.dropWhile Char.isDigit) else none
      | [] => none
  | _ => some text

/-- The last minute of a day may have a leap second. -/
def timeOfDay? (text : List Char) : Option (List Char) := do
  let (_, rest) ← numberBetween 2 0 23 text
  let (_, rest) ← numberBetween 2 0 59 (← expect ':' rest)
  let (_, rest) ← numberBetween 2 0 60 (← expect ':' rest)
  subsecond? rest

def offset? (text : List Char) : Option (List Char) :=
  match text with
  | 'Z' :: rest | 'z' :: rest => some rest
  | '+' :: rest | '-' :: rest => do
      let (_, rest) ← numberBetween 2 0 23 rest
      let (_, rest) ← numberBetween 2 0 59 (← expect ':' rest)
      return rest
  | _ => some text

def isTimeMark (c : Char) : Bool := c == 'T' || c == 't' || c == ' '

/-- A blank behind a date may also belong to what follows. -/
def dateTime? (text : List Char) : Option (List Char) := do
  let rest ← date? text
  match rest with
  | mark :: time =>
      if isTimeMark mark then
        match timeOfDay? time with
        | some rest => offset? rest
        | none => if mark = ' ' then return rest else none
      else return rest
  | [] => return rest

def time? (text : List Char) : Option (List Char) :=
  dateTime? text <|> timeOfDay? text

end MeterWatch.Toml
