import MeterWatch.Text.Composed
import MeterWatch.Url.Domain.MappingTable

/-!
# Mapping domains

Every character of a domain is kept, left out, replaced or refused.
-/

namespace MeterWatch.Url

inductive CharUse where
  | kept
  | ignored
  | replaced (characters : List Char)
  | refused
  deriving DecidableEq, Repr

def replacement (entry : Text.CodeEntry) : List Char :=
  (Text.splitOn (· == '+') entry.item).map fun digits =>
    Char.ofNat (hexValue digits + entry.offset)

def charUse (c : Char) : CharUse :=
  if c.toNat < 0x80 then
    if c.isUpper then .replaced [c.toLower] else .kept
  else if (ignoredCodes.entry? c).isSome then .ignored
  else
    match replacements.entry? c with
    | some entry => .replaced (replacement entry)
    | none =>
        if Text.inSecondKind false (c.toNat - 0x80) usableRuns then .kept
        else .refused

/-- The text that stands for a domain, in composed form. -/
def mapDomain? (domain : List Char) : Option (List Char) := do
  let characters ← domain.mapM fun c =>
    match charUse c with
    | .kept => some [c]
    | .ignored => some []
    | .replaced characters => some characters
    | .refused => none
  return Text.composed characters.flatten

end MeterWatch.Url
