import MeterWatch.Decimal.Numeral

/-!
# Percent encoding

Which characters are encoded depends on the part of the url; those outside
ASCII always are, as the bytes of their UTF-8 form.
-/

namespace MeterWatch.Url

/-! ## Classes -/

def isControl (c : Char) : Bool := c.toNat < 0x20 || c.toNat == 0x7F

def inFragmentSet (c : Char) : Bool :=
  isControl c || c ∈ [' ', '"', '<', '>', '`']

def inQuerySet (c : Char) : Bool :=
  isControl c || c ∈ [' ', '"', '#', '<', '>']

def inWebQuerySet (c : Char) : Bool := inQuerySet c || c == '\''

def inPathSet (c : Char) : Bool :=
  inFragmentSet c || c ∈ ['#', '?', '\x7b', '\x7d']

def inUserSet (c : Char) : Bool :=
  inPathSet c || c ∈ ['/', ':', ';', '=', '@', '[', '\\', ']', '^', '|']

/-! ## Encoding and decoding -/

def upperHexDigit (n : Nat) : Char := (Nat.digitChar n).toUpper

def percentByte (byte : UInt8) : List Char :=
  ['%', upperHexDigit (byte.toNat / 16), upperHexDigit (byte.toNat % 16)]

def percentChar (c : Char) : List Char :=
  (String.utf8EncodeChar c).flatMap percentByte

def encode (set : Char → Bool) (text : List Char) : List Char :=
  text.flatMap fun c =>
    if set c || 0x80 ≤ c.toNat then percentChar c else [c]

/-- The bytes of a text; a percent sign without two digits stays. -/
def decodeBytes : List Char → List UInt8
  | [] => []
  | '%' :: high :: low :: rest =>
      match hexDigitValue? high, hexDigitValue? low with
      | some highValue, some lowValue =>
          UInt8.ofNat (16 * highValue + lowValue) :: decodeBytes rest
      | _, _ => 0x25 :: decodeBytes (high :: low :: rest)
  | c :: rest => String.utf8EncodeChar c ++ decodeBytes rest

/-- The decoded text, unless its bytes are not UTF-8. -/
def decode? (text : List Char) : Option (List Char) :=
  (String.fromUTF8? ⟨(decodeBytes text).toArray⟩).map String.toList

/-! ## Forms -/

/-- The characters that stand for themselves in a form. -/
def isFormChar (c : Char) : Bool :=
  (c.isAlphanum && c.toNat < 0x80) || c ∈ ['*', '-', '.', '_']

def formEncode (text : List Char) : List Char :=
  text.flatMap fun c =>
    if isFormChar c then [c] else if c = ' ' then ['+'] else percentChar c

end MeterWatch.Url
