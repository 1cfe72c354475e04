/-!
# Looking for fields in a line

A line may carry anything.  A field reader looks at one place of the line, and
`leftmost?` tries all places from left to right.
-/

namespace MeterWatch.Line

/-- What a reader finds at the first place where it finds something. -/
def leftmost? {α : Type} (read? : List Char → Option α) :
    List Char → Option α
  | [] => read? []
  | c :: rest =>
      match read? (c :: rest) with
      | some found => some found
      | none => leftmost? read? rest

def after? (literal : String) (text : List Char) : Option (List Char) :=
  literal.toList.isPrefixOf? text

/-- A run of a class, and the text after it, if the run is not empty. -/
def run? (allowed : Char → Bool) (text : List Char) :
    Option (List Char × List Char) :=
  let run := text.takeWhile allowed
  if run.isEmpty then none else some (run, text.dropWhile allowed)

/-- A run of a class that a literal follows. -/
def runBefore? (allowed : Char → Bool) (literal : String)
    (text : List Char) : Option (List Char) := do
  let (run, rest) ← run? allowed text
  let _ ← after? literal rest
  return run

end MeterWatch.Line
