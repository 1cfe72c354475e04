import MeterWatch.Decimal.Numeral

/-!
# TOML keys and strings

Strings are read from behind their opening quotes.
-/

namespace MeterWatch.Toml

/-- A reader takes a value off the front of a text, or fails. -/
abbrev Reader (α : Type) := List Char → Option (α × List Char)

/-! ## Characters -/

def isBlank (c : Char) : Bool := c == ' ' || c == '\t'

def skipBlanks (text : List Char) : List Char := text.dropWhile isBlank

/-- Characters that may stand in comments and in strings of one line. -/
def isLineChar (c : Char) : Bool :=
  c == '\t' || (0x20 ≤ c.toNat && c.toNat != 0x7F)

def isBareKeyChar (c : Char) : Bool :=
  c.isAlphanum || c == '_' || c == '-'

/-! ## Escapes -/

def simpleEscape? : Char → Option Char
  | 'b' => some '\x08'
  | 't' => some '\t'
  | 'n' => some '\n'
  | 'f' => some '\x0c'
  | 'r' => some '\r'
  | '"' => some '"'
  | '\\' => some '\\'
  | _ => none

/-- The character of a number; surrogates are no characters. -/
def charOfNat? (code : Nat) : Option Char :=
  if code.isValidChar then some (Char.ofNat code) else none

def numberedEscape (size : Nat) (text : List Char) :
    Option (Char × List Char) := do
  let digits := text.take size
  if digits.length < size || !digits.all isHexDigit then none
  let c ← charOfNat? (hexValue digits)
  return (c, text.drop size)

def escape : Reader Char
  | 'u' :: rest => numberedEscape 4 rest
  | 'U' :: rest => numberedEscape 8 rest
  | c :: rest => do return (← simpleEscape? c, rest)
  | [] => none

/-! ## Strings of one line -/

/-- The length of the text bounds the number of characters. -/
def basicWithin : Nat → List Char → Reader (List Char)
  | 0, _, _ => none
  | _ + 1, _, [] => none
  | fuel + 1, reversed, c :: rest =>
      if c = '"' then some (reversed.reverse, rest)
      else if c = '\\' then
        match escape rest with
        | some (escaped, rest) => basicWithin fuel (escaped :: reversed) rest
        | none => none
      else if isLineChar c then basicWithin fuel (c :: reversed) rest
      else none

def basicString (text : List Char) : Option (List Char × List Char) :=
  basicWithin (text.length + 1) [] text

def isLiteralChar (c : Char) : Bool := isLineChar c && c != '\''

def literalString (text : List Char) : Option (List Char × List Char) :=
  match text.dropWhile isLiteralChar with
  | '\'' :: rest => some (text.takeWhile isLiteralChar, rest)
  | _ => none

/-! ## Strings of many lines -/

def dropNewline : List Char → List Char
  | '\n' :: rest => rest
  | text => text

/--
A run of quotes inside a string of many lines: up to two are content, three
close the string, and up to two before those are content again.
-/
def quoteRun (quote : Char) (text : List Char) :
    List Char × Bool × List Char :=
  let count := (text.takeWhile (· == quote)).length
  if count < 3 then (List.replicate count quote, false, text.drop count)
  else
    let content := min 2 (count - 3)
    (List.replicate content quote, true, text.drop (content + 3))

def isGapChar (c : Char) : Bool := isBlank c || c == '\n'

/-- The text behind a line end that is escaped, with all blanks around it. -/
def lineGap? (text : List Char) : Option (List Char) :=
  match skipBlanks text with
  | '\n' :: rest => some (rest.dropWhile isGapChar)
  | _ => none

/-- Both kinds of strings of many lines; only one of them has escapes. -/
def linesWithin (quote : Char) (escapes : Bool) :
    Nat → List Char → Reader (List Char)
  | 0, _, _ => none
  | _ + 1, _, [] => none
  | fuel + 1, reversed, c :: rest =>
      if c = quote then
        let (content, closed, rest) := quoteRun quote (c :: rest)
        if closed then some ((content ++ reversed).reverse, rest)
        else linesWithin quote escapes fuel (content ++ reversed) rest
      else if c = '\\' ∧ escapes then
        match lineGap? rest with
        | some rest => linesWithin quote escapes fuel reversed rest
        | none =>
            match escape rest with
            | some (escaped, rest) =>
                linesWithin quote escapes fuel (escaped :: reversed) rest
            | none => none
      else if isLineChar c || c == '\n' then
        linesWithin quote escapes fuel (c :: reversed) rest
      else none

/-- A line end right behind the opening quotes is no content. -/
def linesString (quote : Char) (escapes : Bool) (text : List Char) :
    Option (List Char × List Char) :=
  linesWithin quote escapes (text.length + 1) [] (dropNewline text)

def string : Reader (List Char)
  | '"' :: '"' :: '"' :: rest => linesString '"' true rest
  | '\'' :: '\'' :: '\'' :: rest => linesString '\'' false rest
  | '"' :: rest => basicString rest
  | '\'' :: rest => literalString rest
  | _ => none

/-! ## Keys -/

def simpleKey (text : List Char) : Option (List Char × List Char) :=
  match text with
  | '"' :: rest => basicString rest
  | '\'' :: rest => literalString rest
  | _ =>
      let key := text.takeWhile isBareKeyChar
      if key.isEmpty then none else some (key, text.dropWhile isBareKeyChar)

/-- Keys between points, with blanks around each. -/
def keysWithin : Nat → Reader (List (List Char))
  | 0, _ => none
  | fuel + 1, text => do
      let (key, rest) ← simpleKey (skipBlanks text)
      match skipBlanks rest with
      | '.' :: rest =>
          let (keys, rest) ← keysWithin fuel rest
          return (key :: keys, rest)
      | rest => return ([key], rest)

/-- A path has fewer than eighty keys. -/
def keyPath (text : List Char) : Option (List (List Char) × List Char) :=
  keysWithin 79 text

end MeterWatch.Toml
