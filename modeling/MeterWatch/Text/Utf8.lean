/-!
# Reading UTF-8

Bytes that are not UTF-8 are still read.  What cannot be a part of a character
is replaced.
-/

namespace MeterWatch.Text

def characters? (bytes : List UInt8) : Option (List Char) :=
  (String.fromUTF8? ⟨bytes.toArray⟩).map String.toList

/-- Whether bytes are the start of a character that lacks its end. -/
def isCutOff (bytes : List UInt8) : Bool :=
  (characters? (bytes ++ [0x80])).isSome ||
    (characters? (bytes ++ [0x80, 0x80])).isSome

/-- The first character, or its replacement, and the number of its bytes. -/
def firstCharacter (bytes : List UInt8) : Char × Nat :=
  let complete (size : Nat) : Option (Char × Nat) :=
    match characters? (bytes.take size) with
    | some [c] => some (c, size)
    | _ => none
  match [1, 2, 3, 4].findSome? complete with
  | some found => found
  | none =>
      let cutOff := [3, 2].find? fun size => isCutOff (bytes.take size)
      ('\ufffd', cutOff.getD 1)

/-- A run of bytes that cannot be completed is replaced as a whole. -/
def readLossy (bytes : List UInt8) : String :=
  match characters? bytes with
  | some text => String.ofList text
  | none => String.ofList (replaced bytes.length bytes)
where
  replaced : Nat → List UInt8 → List Char
    | 0, _ | _, [] => []
    | fuel + 1, bytes =>
        let (c, size) := firstCharacter bytes
        c :: replaced fuel (bytes.drop size)

end MeterWatch.Text
