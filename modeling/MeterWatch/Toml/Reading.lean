import MeterWatch.Toml.Number
import MeterWatch.Toml.Time
import MeterWatch.Toml.Value

/-!
# Reading TOML documents

A document is read line by line into one table.  The path of the last header
says where the following keys belong.
-/

namespace MeterWatch.Toml

/-! ## Lines -/

/-- A text with all line ends of one kind. -/
def unifyNewlines : List Char → List Char
  | '\r' :: '\n' :: rest => '\n' :: unifyNewlines rest
  | c :: rest => c :: unifyNewlines rest
  | [] => []

/-- What follows a comment, which ends at the end of its line. -/
def skipComment : List Char → List Char
  | '#' :: rest => rest.dropWhile isLineChar
  | text => text

/-- The next line, if nothing but blanks and a comment remain on this one. -/
def lineEnd? (text : List Char) : Option (List Char) :=
  match skipComment (skipBlanks text) with
  | [] => some []
  | '\n' :: rest => some rest
  | _ => none

/-- Blanks, line ends and comments between the items of an array. -/
def skipGaps : Nat → List Char → List Char
  | 0, text => text
  | fuel + 1, text =>
      match text.dropWhile isGapChar with
      | '#' :: rest => skipGaps fuel (skipComment ('#' :: rest))
      | text => text

def skipGap (text : List Char) : List Char := skipGaps text.length text

/-! ## Values -/

def word (letters : String) (value : Value) (text : List Char) :
    Option (Value × List Char) := do
  let rest ← letters.toList.isPrefixOf? text
  return (value, rest)

def numeric (text : List Char) : Option (Value × List Char) :=
  match time? text with
  | some rest => some (.time, rest)
  | none =>
      match real text with
      | some (number, rest) => some (.real number, rest)
      | none => do
          let (number, rest) ← integer text
          return (.integer number, rest)

def scalar (text : List Char) : Option (Value × List Char) :=
  match text with
  | '"' :: _ | '\'' :: _ => do
      let (content, rest) ← string text
      return (.string content, rest)
  | 't' :: _ => word "true" (.boolean true) text
  | 'f' :: _ => word "false" (.boolean false) text
  | _ => numeric text

/-- The items of an array, from behind its opening bracket or a comma. -/
def itemsWithin (value : Reader Value) : Nat → Reader (List Value)
  | 0, _ => none
  | fuel + 1, text =>
      match skipGap text with
      | ']' :: rest => some ([], rest)
      | text => do
          let (item, rest) ← value text
          match skipGap rest with
          | ',' :: rest =>
              let (items, rest) ← itemsWithin value fuel rest
              return (item :: items, rest)
          | ']' :: rest => return ([item], rest)
          | _ => none

def keyValue (value : Reader Value) (text : List Char) :
    Option ((List Key × Value) × List Char) := do
  let (path, rest) ← keyPath text
  let (value, rest) ← value (skipBlanks (← expect '=' rest))
  return ((path, value), rest)

/-- The keys of an inline table, from behind its opening brace or a comma. -/
def pairsWithin (value : Reader Value) : Nat → Reader (List (List Key × Value))
  | 0, _ => none
  | fuel + 1, text => do
      let (pair, rest) ← keyValue value text
      match skipBlanks rest with
      | ',' :: rest =>
          let (pairs, rest) ← pairsWithin value fuel rest
          return (pair :: pairs, rest)
      | '\x7d' :: rest => return ([pair], rest)
      | _ => none

/-- Adds a value under a path that ends in its key. -/
def addPath (kind : TableKind) (entries : Entries) (path : List Key)
    (value : Value) : Option Entries := do
  let key ← path.getLast?
  addAt path.dropLast key value kind entries

def inlineTable (value : Reader Value) (text : List Char) :
    Option (Value × List Char) :=
  match skipBlanks text with
  | '\x7d' :: rest => some (.table .inline [], rest)
  | text => do
      let (pairs, rest) ← pairsWithin value (text.length + 1) text
      let entries ← pairs.foldlM
        (fun entries pair => addPath .inline entries pair.1 pair.2) []
      return (.table .inline entries, rest)

/-- A value with at most so many containers around each other. -/
def valueWithin : Nat → Reader Value
  | 0, text =>
      match text with
      | '[' :: _ | '\x7b' :: _ => none
      | _ => scalar text
  | depth + 1, text =>
      match text with
      | '[' :: rest => do
          let (items, rest) ←
            itemsWithin (valueWithin depth) (rest.length + 1) rest
          return (.array items, rest)
      | '\x7b' :: rest => inlineTable (valueWithin depth) rest
      | _ => scalar text

def value : Reader Value := valueWithin 79

/-! ## Documents -/

structure Document where
  root : Entries
  /-- The table that the last header opened. -/
  current : List Key

def Document.change (document : Document) (path : List Key)
    (change : Change) : Option Document := do
  let root ← changeAt false change path .header document.root
  return { document with root }

/-- Opens a table by its header. -/
def Document.enter (document : Document) (path : List Key)
    (opening : Key → Change) : Option Document := do
  let key ← path.getLast?
  let document ← document.change path.dropLast (opening key)
  return { document with current := path }

def Document.add (document : Document) (path : List Key) (value : Value) :
    Option Document :=
  document.change document.current fun kind entries =>
    addPath kind entries path value

/-- A header with the closing brackets it needs. -/
def header (closing : List Char) (text : List Char) :
    Option (List Key × List Char) := do
  let (path, rest) ← keyPath text
  return (path, ← closing.isPrefixOf? rest)

def Document.readLine (document : Document) (text : List Char) :
    Option (Document × List Char) :=
  match text with
  | '[' :: '[' :: rest => do
      let (path, rest) ← header [']', ']'] rest
      return (← document.enter path pushTable, rest)
  | '[' :: rest => do
      let (path, rest) ← header [']'] rest
      return (← document.enter path openTable, rest)
  | _ => do
      let ((path, value), rest) ← keyValue value text
      return (← document.add path value, rest)

/-- The length of the text bounds the number of lines. -/
def Document.readLines : Nat → Document → List Char → Option Document
  | 0, _, _ => none
  | fuel + 1, document, text =>
      match skipBlanks text with
      | [] => some document
      | c :: rest =>
          if c = '\n' ∨ c = '#' then do
            readLines fuel document (← lineEnd? (c :: rest))
          else do
            let (document, rest) ← document.readLine (c :: rest)
            readLines fuel document (← lineEnd? rest)

def dropMark : List Char → List Char
  | '\ufeff' :: rest => rest
  | text => text

/-- The table of a document, whose text may start with a byte order mark. -/
def parse? (text : String) : Option Entries := do
  let text := unifyNewlines (dropMark text.toList)
  let document ← Document.readLines (text.length + 1) ⟨[], []⟩ text
  return document.root

end MeterWatch.Toml
