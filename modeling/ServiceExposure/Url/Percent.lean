import ServiceExposure.Net.Address

/-! # Percent encoding

In each part of a URL some characters stand for themselves and the others are written as `%` and the
two hexadecimal digits of each byte. -/

namespace ServiceExposure.Url

/-! ## Which characters are encoded -/

/-- Controls and all characters outside ASCII. -/
def isControl (c : Char) : Bool := c.toNat < 0x20 || 0x7e < c.toNat

def escapedInQuery (c : Char) : Bool := isControl c || c ∈ [' ', '"', '#', '<', '>']

/-- In queries of the special schemes an apostrophe is encoded too. -/
def escapedInSpecialQuery (c : Char) : Bool := escapedInQuery c || c == '\''

def escapedInFragment (c : Char) : Bool := isControl c || c ∈ [' ', '"', '<', '>', '\x60']

def escapedInPath (c : Char) : Bool := escapedInFragment c || c ∈ ['#', '?', '\x7b', '\x7d']

def escapedInCredentials (c : Char) : Bool :=
  escapedInPath c || c ∈ ['/', ':', ';', '=', '@', '[', '\\', ']', '^', '|']

/-! ## Encoding and decoding -/

def percentByte (b : UInt8) : List Char :=
  ['%', (Nat.digitChar (b.toNat / 16)).toUpper, (Nat.digitChar (b.toNat % 16)).toUpper]

def percentEncode (escaped : Char → Bool) (cs : List Char) : List Char :=
  cs.flatMap fun c => if escaped c then (String.utf8EncodeChar c).flatMap percentByte else [c]

/-- The bytes of a text in which each `%` with two hexadecimal digits stands for one byte. -/
def percentDecode : List Char → List UInt8
  | [] => []
  | '%' :: a :: b :: rest =>
    if Net.isHexDigit a && Net.isHexDigit b then
      .ofNat (16 * Net.hexDigitValue a + Net.hexDigitValue b) :: percentDecode rest
    else '%'.toNat.toUInt8 :: percentDecode (a :: b :: rest)
  | c :: rest => String.utf8EncodeChar c ++ percentDecode rest

end ServiceExposure.Url
