import ServiceExposure.Json

/-! # Written documents

The compact form of a document: no blanks, members in the order in which they stand, and every
character as it is except quotes, backslashes and controls. -/

namespace ServiceExposure

namespace Json

/-! ## Numbers -/

/-- How decimals are laid out. -/
structure NumberFormat where
  /-- Positional above this exponent of the leading digit, up to the other bound. -/
  positionalAbove : Int
  positionalBelow : Int
  wholeSuffix : String
  exponentMark : String

/-- Numbers from `1e-5` up to below `1e16` are written positionally, whole ones with `.0`; an
exponent has neither a plus sign nor leading zeros. -/
def numberFormat : NumberFormat := ⟨-6, 16, ".0", "e"⟩

def zeros (n : Nat) : String := .ofList (List.replicate n '0')

def NumberFormat.write (f : NumberFormat) (d : Binary64.Decimal) : String :=
  let ds := (toString d.digits).toList
  let point : Int := ds.length + d.exponent
  if f.positionalAbove < point - 1 && point - 1 < f.positionalBelow then
    if 0 ≤ d.exponent then .ofList ds ++ zeros d.exponent.toNat ++ f.wholeSuffix
    else if 0 < point then .ofList (ds.take point.toNat) ++ "." ++ .ofList (ds.drop point.toNat)
    else "0." ++ zeros (-point).toNat ++ .ofList ds
  else
    let fraction := if ds.length = 1 then "" else "." ++ .ofList ds.tail
    .ofList (ds.take 1) ++ fraction ++ f.exponentMark ++ toString (point - 1)

def writeFloat (x : Binary64) : String :=
  (if x.negative then "-" else "") ++ numberFormat.write x.shortest

/-! ## Strings -/

def hexDigit (n : Nat) : Char := "0123456789abcdef".toList.getD n '0'

def escapeChar (c : Char) : List Char :=
  if c = '"' then ['\\', '"']
  else if c = '\\' then ['\\', '\\']
  else if c = '\n' then ['\\', 'n']
  else if c = '\r' then ['\\', 'r']
  else if c = '\t' then ['\\', 't']
  else if c = '\x08' then ['\\', 'b']
  else if c = '\x0c' then ['\\', 'f']
  else if c.toNat < 0x20 then
    ['\\', 'u', '0', '0', hexDigit (c.toNat / 16), hexDigit (c.toNat % 16)]
  else [c]

def writeString (s : String) : String :=
  "\"" ++ .ofList (s.toList.flatMap escapeChar) ++ "\""

/-! ## Documents -/

mutual

def write : Json → String
  | .null => "null"
  | .bool true => "true"
  | .bool false => "false"
  | .int n => toString n
  | .float x => writeFloat x
  | .string s => writeString s
  | .array items => "[" ++ String.intercalate "," (writeItems items) ++ "]"
  | .object members => "\x7b" ++ String.intercalate "," (writeMembers members) ++ "\x7d"
termination_by structural j => j

def writeItems : List Json → List String
  | [] => []
  | item :: items => write item :: writeItems items
termination_by structural items => items

def writeMembers : List (String × Json) → List String
  | [] => []
  | m :: ms => writeMember m :: writeMembers ms
termination_by structural ms => ms

def writeMember : String × Json → String
  | (key, value) => writeString key ++ ":" ++ write value
termination_by structural m => m

end

end Json

end ServiceExposure
