import MeterWatch.Json.Fault

/-!
# White space and words
-/

namespace MeterWatch.Json

def isBlank (c : Char) : Bool :=
  c == ' ' || c == '\t' || c == '\n' || c == '\r'

def skipBlanks (text : List Char) : List Char := text.dropWhile isBlank

/-- The rest of a word whose first letter has been taken. -/
def word : List Char → List Char → Except Fault (List Char)
  | [], text => .ok text
  | _ :: _, [] => faultAt .endInValue []
  | letter :: letters, c :: rest =>
      if c = letter then word letters rest
      else faultAt .expectedIdent (c :: rest)

end MeterWatch.Json
