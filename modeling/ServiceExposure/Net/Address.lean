import ServiceExposure.Text.Cut

/-! # IP addresses as text

The usual spellings: four decimal octets, and eight hexadecimal groups of which a run of zeros may
be written `::` and the last two may be an IPv4 address. -/

namespace ServiceExposure.Net

def isHexDigit (c : Char) : Bool := c.isDigit || ('a' ≤ c && c ≤ 'f') || ('A' ≤ c && c ≤ 'F')

def hexDigitValue (c : Char) : Nat :=
  if c.isDigit then c.toNat - '0'.toNat
  else if 'a' ≤ c then c.toNat - 'a'.toNat + 10
  else c.toNat - 'A'.toNat + 10

def ofDecimal (cs : List Char) : Nat := cs.foldl (fun n c => 10 * n + (c.toNat - '0'.toNat)) 0

def ofHex (cs : List Char) : Nat := cs.foldl (fun n c => 16 * n + hexDigitValue c) 0

/-- One or more decimal digits. -/
def isDecimal (cs : List Char) : Bool := !cs.isEmpty && cs.all Char.isDigit

/-! ## IPv4 -/

/-- At most three digits without leading zeros, for a number below 256. -/
def octet? (cs : List Char) : Option Nat :=
  if isDecimal cs && cs.length ≤ 3 && (cs.head? ≠ some '0' || cs.length = 1) &&
      ofDecimal cs < 256 then
    some (ofDecimal cs)
  else none

/-- An IPv4 address as its four octets. -/
def ipv4? (cs : List Char) : Option (Nat × Nat × Nat × Nat) :=
  match Text.splitChars '.' cs with
  | [a, b, c, d] => do return (← octet? a, ← octet? b, ← octet? c, ← octet? d)
  | _ => none

/-! ## IPv6 -/

/-- One to four hexadecimal digits. -/
def group? (cs : List Char) : Option Nat :=
  if cs.all isHexDigit && 1 ≤ cs.length && cs.length ≤ 4 then some (ofHex cs) else none

/-- Groups from their texts; where `ipv4Last` holds, the last text may be an IPv4 address for two
groups. -/
def groups? (ipv4Last : Bool) : List (List Char) → Option (List Nat)
  | [] => some []
  | [cs] =>
    match group? cs with
    | some g => some [g]
    | none =>
      if ipv4Last then (ipv4? cs).map fun (a, b, c, d) => [256 * a + b, 256 * c + d] else none
  | cs :: rest => do return (← group? cs) :: (← groups? ipv4Last rest)

/-- The groups of one side of `::`, of which there may be none. -/
def side? (ipv4Last : Bool) (cs : List Char) : Option (List Nat) :=
  if cs.isEmpty then some [] else groups? ipv4Last (Text.splitChars ':' cs)

/-- An IPv6 address as its eight groups. -/
def ipv6? (cs : List Char) : Option (List Nat) :=
  match Text.cutChars? "::".toList cs with
  | none => do
    let groups ← groups? true (Text.splitChars ':' cs)
    if groups.length = 8 then some groups else none
  | some (before, after) => do
    let head ← side? false before
    let tail ← side? true after
    if head.length + tail.length ≤ 7 then
      some (head ++ List.replicate (8 - head.length - tail.length) 0 ++ tail)
    else none

def isIpv6 (s : String) : Bool := (ipv6? s.toList).isSome

/-! ## Socket addresses -/

def isPort (cs : List Char) : Bool := isDecimal cs && ofDecimal cs ≤ 0xffff

/-- An IPv6 address that may name a numbered scope. -/
def isScopedIpv6 (cs : List Char) : Bool :=
  match Text.cutChars? ['%'] cs with
  | none => (ipv6? cs).isSome
  | some (address, scope) =>
    (ipv6? address).isSome && isDecimal scope && ofDecimal scope ≤ 0xffffffff

/-- An IPv4 address, or an IPv6 address in brackets, with a port. -/
def isSocketAddress (s : String) : Bool :=
  match Text.cutLastChars? ':' s.toList with
  | none => false
  | some (host, port) =>
    isPort port &&
      match host with
      | '[' :: rest => rest.getLast? = some ']' && isScopedIpv6 rest.dropLast
      | _ => (ipv4? host).isSome

end ServiceExposure.Net
