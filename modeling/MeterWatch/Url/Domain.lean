import MeterWatch.Url.Domain.Joining
import MeterWatch.Url.Domain.Mapping
import MeterWatch.Url.Domain.Punycode

/-!
# Domains

The ASCII form of a domain.  Labels with other characters are encoded, and
labels that are encoded already must have been worth it.
-/

namespace MeterWatch.Url

def isAscii (c : Char) : Bool := c.toNat < 0x80

def isForbiddenInDomain (c : Char) : Bool :=
  c.toNat ≤ 0x20 || c.toNat == 0x7F ||
    c ∈ ['%', '#', '/', ':', '<', '>', '?', '@', '[', '\\', ']', '^', '|']

/-! ## Labels -/

def encodedMark : List Char := "xn--".toList

/-- A label and the characters that it stands for. -/
structure Label where
  ascii : List Char
  characters : List Char
  deriving DecidableEq, Repr

/-- What an encoded label stands for must be in its normal form. -/
def isNormal (characters : List Char) : Bool :=
  characters.all (charUse · == .kept) &&
    Text.composed characters == characters

def Label.ofText? (text : List Char) : Option Label := do
  if encodedMark.isPrefixOf text then
    let characters ← Punycode.decode? (text.drop encodedMark.length)
    if characters.all isAscii || !isNormal characters then none
    else return { ascii := text, characters }
  else if text.all isAscii then return { ascii := text, characters := text }
  else
    return { ascii := encodedMark ++ Punycode.encode text
             characters := text }

/-- Marks and joiners need something before them. -/
def Label.isUsable (label : Label) : Bool :=
  !label.characters.head?.any Text.isMark && joinersFit [] label.characters

/-! ## Domains -/

def joinLabels (labels : List (List Char)) : List Char :=
  ['.'].intercalate labels

/-- The form of a domain with encoded labels, or with ones to be encoded. -/
def foreignDomain? (domain : List Char) : Option (List Char) := do
  let texts := Text.splitOn (· == '.') (← mapDomain? domain)
  let labels ← texts.mapM Label.ofText?
  if labels.all Label.isUsable &&
      directionsFit (labels.map Label.characters) then
    return joinLabels (labels.map Label.ascii)
  else none

def isPlainLabel (label : List Char) : Bool :=
  label.all isAscii && !encodedMark.isPrefixOf label

def asciiDomain? (domain : List Char) : Option (List Char) := do
  let lower := domain.map Char.toLower
  let ascii ←
    if (Text.splitOn (· == '.') lower).all isPlainLabel then some lower
    else foreignDomain? domain
  if ascii.any isForbiddenInDomain then none else some ascii

end MeterWatch.Url
