import MeterWatch.Json.Skip

/-!
# JSON texts

What it means for a text to begin with the spelling of a value.  Every relation
here leads from a text to what is left of it behind the spelling, so spellings
are put together by leading on.  A value may be spelled in many ways: blanks may
stand between any two parts, and a character of a string may be written as it
is or as an escape.
-/

namespace MeterWatch.Json

/-- A value before it is given a meaning; numbers are kept as written. -/
inductive Value where
  | null
  | boolean (value : Bool)
  | number (literal : List Char)
  | string (content : List Char)
  | list (elements : List Value)
  | object (members : List (List Char × Value))

/-! ## Numbers -/

def IsDigits (digits : List Char) : Prop :=
  digits ≠ [] ∧ ∀ c ∈ digits, c.isDigit = true

/-- Digits without a leading zero. -/
inductive IsWhole : List Char → Prop where
  | zero : IsWhole ['0']
  | positive {digits : List Char} (h : IsDigits digits)
      (leading : digits.head? ≠ some '0') : IsWhole digits

inductive IsFraction : List Char → Prop where
  | none : IsFraction []
  | some {digits : List Char} (h : IsDigits digits) : IsFraction ('.' :: digits)

inductive IsExponent : List Char → Prop where
  | none : IsExponent []
  | some {mark : Char} {sign digits : List Char} (hmark : mark ∈ ['e', 'E'])
      (hsign : sign ∈ [[], ['+'], ['-']]) (h : IsDigits digits) :
      IsExponent (mark :: (sign ++ digits))

def IsUnsigned (literal : List Char) : Prop :=
  ∃ whole fraction exponent, IsWhole whole ∧ IsFraction fraction ∧
    IsExponent exponent ∧ literal = whole ++ (fraction ++ exponent)

inductive IsNumber : List Char → Prop where
  | unsigned {literal : List Char} (h : IsUnsigned literal) : IsNumber literal
  | negative {literal : List Char} (h : IsUnsigned literal) :
      IsNumber ('-' :: literal)

/-! ## Strings -/

/-- The letters behind a backslash that stand for a character. -/
def shortEscapes : List (Char × Char) :=
  [('"', '"'), ('\\', '\\'), ('/', '/'), ('b', '\x08'), ('f', '\x0c'),
    ('n', '\n'), ('r', '\r'), ('t', '\t')]

/-- Four hexadecimal digits behind the mark of an escape. -/
inductive IsUnit (unit : Nat) : List Char → List Char → Prop where
  | digits {first second third fourth : Char} {rest : List Char}
      (hex : ∀ digit ∈ [first, second, third, fourth], isHexDigit digit = true)
      (value : hexValue [first, second, third, fourth] = unit) :
      IsUnit unit
        ('\\' :: 'u' :: first :: second :: third :: fourth :: rest) rest

/-- How the characters of a string are written, with the closing quote. -/
inductive Spelled : List Char → List Char → List Char → Prop where
  | close {rest : List Char} : Spelled [] ('"' :: rest) rest
  | plain {c : Char} {content text rest : List Char} (notQuote : c ≠ '"')
      (notEscape : c ≠ '\\') (notControl : 0x20 ≤ c.toNat)
      (h : Spelled content text rest) : Spelled (c :: content) (c :: text) rest
  | short {letter c : Char} {content text rest : List Char}
      (escape : (letter, c) ∈ shortEscapes) (h : Spelled content text rest) :
      Spelled (c :: content) ('\\' :: letter :: text) rest
  | unit {c : Char} {content text inner rest : List Char}
      (escape : IsUnit c.toNat text inner) (h : Spelled content inner rest) :
      Spelled (c :: content) text rest
  | pair {c : Char} {leading trailing : Nat}
      {content text middle inner rest : List Char}
      (escape : IsUnit (0xD800 + leading) text middle)
      (escape' : IsUnit (0xDC00 + trailing) middle inner)
      (leading_lt : leading < 0x400) (trailing_lt : trailing < 0x400)
      (value : c.toNat = 0x10000 + 0x400 * leading + trailing)
      (h : Spelled content inner rest) : Spelled (c :: content) text rest

/-! ## Values -/

def blanks : List Char := [' ', '\t', '\n', '\r']

/-- What a text may have to go on with. -/
inductive Part where
  | value (value : Value)
  /-- What follows an opening bracket. -/
  | elements (elements : List Value)
  /-- What follows an element. -/
  | moreElements (elements : List Value)
  /-- What follows an opening brace. -/
  | members (members : List (List Char × Value))
  /-- What follows a member. -/
  | moreMembers (members : List (List Char × Value))
  | member (key : List Char) (value : Value)
      (others : List (List Char × Value))
  /-- What follows a key. -/
  | keyed (value : Value) (others : List (List Char × Value))

inductive Written : Part → List Char → List Char → Prop where
  | blank {part : Part} {c : Char} {text rest : List Char}
      (isBlank : c ∈ blanks) (h : Written part text rest) :
      Written part (c :: text) rest
  | null {rest : List Char} :
      Written (.value .null) ('n' :: 'u' :: 'l' :: 'l' :: rest) rest
  | trueWord {rest : List Char} :
      Written (.value (.boolean true)) ('t' :: 'r' :: 'u' :: 'e' :: rest) rest
  | falseWord {rest : List Char} :
      Written (.value (.boolean false))
        ('f' :: 'a' :: 'l' :: 's' :: 'e' :: rest) rest
  | number {literal rest : List Char} (h : IsNumber literal) :
      Written (.value (.number literal)) (literal ++ rest) rest
  | string {content text rest : List Char} (h : Spelled content text rest) :
      Written (.value (.string content)) ('"' :: text) rest
  | list {elements : List Value} {text rest : List Char}
      (h : Written (.elements elements) text rest) :
      Written (.value (.list elements)) ('[' :: text) rest
  | object {members : List (List Char × Value)} {text rest : List Char}
      (h : Written (.members members) text rest) :
      Written (.value (.object members)) ('\x7b' :: text) rest
  | noElements {rest : List Char} : Written (.elements []) (']' :: rest) rest
  | firstElement {value : Value} {others : List Value}
      {text middle rest : List Char} (h : Written (.value value) text middle)
      (h' : Written (.moreElements others) middle rest) :
      Written (.elements (value :: others)) text rest
  | lastElement {rest : List Char} :
      Written (.moreElements []) (']' :: rest) rest
  | nextElement {value : Value} {others : List Value}
      {text middle rest : List Char} (h : Written (.value value) text middle)
      (h' : Written (.moreElements others) middle rest) :
      Written (.moreElements (value :: others)) (',' :: text) rest
  | noMembers {rest : List Char} : Written (.members []) ('\x7d' :: rest) rest
  | firstMember {key : List Char} {value : Value}
      {others : List (List Char × Value)} {text rest : List Char}
      (h : Written (.member key value others) text rest) :
      Written (.members ((key, value) :: others)) text rest
  | lastMember {rest : List Char} :
      Written (.moreMembers []) ('\x7d' :: rest) rest
  | nextMember {key : List Char} {value : Value}
      {others : List (List Char × Value)} {text rest : List Char}
      (h : Written (.member key value others) text rest) :
      Written (.moreMembers ((key, value) :: others)) (',' :: text) rest
  | key {key : List Char} {value : Value} {others : List (List Char × Value)}
      {text middle rest : List Char} (h : Spelled key text middle)
      (h' : Written (.keyed value others) middle rest) :
      Written (.member key value others) ('"' :: text) rest
  | colon {value : Value} {others : List (List Char × Value)}
      {text middle rest : List Char} (h : Written (.value value) text middle)
      (h' : Written (.moreMembers others) middle rest) :
      Written (.keyed value others) (':' :: text) rest

/-- A document is one value with nothing but blanks around it. -/
def IsDocument (value : Value) (text : List Char) : Prop :=
  ∃ rest, Written (.value value) text rest ∧ ∀ c ∈ rest, c ∈ blanks

/-! ## Values that are skipped -/

/-- How a string is written that is skipped; its escapes need not stand for
characters. -/
inductive Skimmed : List Char → List Char → Prop where
  | close {rest : List Char} : Skimmed ('"' :: rest) rest
  | plain {c : Char} {text rest : List Char} (notQuote : c ≠ '"')
      (notEscape : c ≠ '\\') (notControl : 0x20 ≤ c.toNat)
      (h : Skimmed text rest) : Skimmed (c :: text) rest
  | short {letter c : Char} {text rest : List Char}
      (escape : (letter, c) ∈ shortEscapes) (h : Skimmed text rest) :
      Skimmed ('\\' :: letter :: text) rest
  | unit {unit : Nat} {text inner rest : List Char}
      (escape : IsUnit unit text inner) (h : Skimmed inner rest) :
      Skimmed text rest

def Container.opening : Container → Char
  | .list => '['
  | .object => '\x7b'

inductive Place where
  | value
  /-- What follows an opening bracket or brace. -/
  | inside (container : Container)
  /-- An element, or a member with its key. -/
  | item (container : Container)
  /-- What follows an item. -/
  | more (container : Container)

/-- The text of a value, whatever it is, up to its end. -/
inductive Passed : Place → List Char → List Char → Prop where
  | blank {place : Place} {c : Char} {text rest : List Char}
      (isBlank : c ∈ blanks) (h : Passed place text rest) :
      Passed place (c :: text) rest
  | null {rest : List Char} : Passed .value ('n' :: 'u' :: 'l' :: 'l' :: rest) rest
  | trueWord {rest : List Char} :
      Passed .value ('t' :: 'r' :: 'u' :: 'e' :: rest) rest
  | falseWord {rest : List Char} :
      Passed .value ('f' :: 'a' :: 'l' :: 's' :: 'e' :: rest) rest
  | number {literal rest : List Char} (h : IsNumber literal) :
      Passed .value (literal ++ rest) rest
  | string {text rest : List Char} (h : Skimmed text rest) :
      Passed .value ('"' :: text) rest
  | opened {container : Container} {text rest : List Char}
      (h : Passed (.inside container) text rest) :
      Passed .value (container.opening :: text) rest
  | empty {container : Container} {rest : List Char} :
      Passed (.inside container) (container.close :: rest) rest
  | first {container : Container} {text middle rest : List Char}
      (h : Passed (.item container) text middle)
      (h' : Passed (.more container) middle rest) :
      Passed (.inside container) text rest
  | last {container : Container} {rest : List Char} :
      Passed (.more container) (container.close :: rest) rest
  | next {container : Container} {text middle rest : List Char}
      (h : Passed (.item container) text middle)
      (h' : Passed (.more container) middle rest) :
      Passed (.more container) (',' :: text) rest
  | element {text rest : List Char} (h : Passed .value text rest) :
      Passed (.item .list) text rest
  | member {text gap inner rest : List Char} (key : Skimmed text gap)
      (colon : skipBlanks gap = ':' :: inner)
      (h : Passed .value inner rest) : Passed (.item .object) ('"' :: text) rest

end MeterWatch.Json
