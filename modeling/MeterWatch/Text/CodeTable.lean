import MeterWatch.Decimal.Numeral
import MeterWatch.Text.Parts

/-!
# Tables of codes

What is true of some characters is kept in tables of their codes.  A table of
runs tells two kinds of codes apart.  A table of rows is a text that says
something of the codes it names, which are in base sixteen.  Rows stand between
blanks:

* `41-5A:x` says `x` of every code from 41 to 5A,
* `100/12E:x` says it of every second one,
* `C0:x,y,z` says `x` of C0, `y` of the code behind it, and so on.
-/

namespace MeterWatch.Text

/-! ## Runs -/

/-- Whether the run that holds a code is one of the second kind. -/
def inSecondKind (kind : Bool) : Nat → List Nat → Bool
  | _, [] => kind
  | code, run :: rest =>
      if code < run then kind else inSecondKind (!kind) (code - run) rest

/-! ## Rows -/

structure CodeRow where
  first : Nat
  last : Nat
  step : Nat
  items : List (List Char)

/-- What a row says of a code, and how far the code lies behind the one that it
is said of first. -/
structure CodeEntry where
  item : List Char
  offset : Nat

abbrev CodeTable := List CodeRow

namespace CodeRow

def ofText (text : List Char) : CodeRow :=
  let codes := text.takeWhile (· != ':')
  let items := splitOn (· == ',') ((text.dropWhile (· != ':')).drop 1)
  let first := hexValue (codes.takeWhile isHexDigit)
  match codes.dropWhile isHexDigit with
  | [] => ⟨first, first + items.length - 1, 1, items⟩
  | mark :: last => ⟨first, hexValue last, if mark = '/' then 2 else 1, items⟩

def entry? (row : CodeRow) (code : Nat) : Option CodeEntry :=
  if code < row.first ∨ row.last < code then none
  else
    let offset := code - row.first
    match row.items with
    | [item] => if offset % row.step = 0 then some ⟨item, offset⟩ else none
    | items => items[offset]?.map fun item => ⟨item, 0⟩

end CodeRow

namespace CodeTable

def ofText (text : String) : CodeTable :=
  let rows := splitOn (fun c => c == ' ' || c == '\n') text.toList
  (rows.filter (!·.isEmpty)).map CodeRow.ofText

def entry? (table : CodeTable) (c : Char) : Option CodeEntry :=
  table.findSome? fun row => row.entry? c.toNat

/-- What a table says of a character, if it says so of all codes of a row. -/
def item? (table : CodeTable) (c : Char) : Option String :=
  (table.entry? c).map fun entry => String.ofList entry.item

end CodeTable

end MeterWatch.Text
