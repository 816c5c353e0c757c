import ServiceExposure.Url.Domain
import ServiceExposure.Url.Percent

/-! # Hosts of URLs -/

namespace ServiceExposure.Url

/-- Why a text is no URL. -/
inductive Error where
  | noScheme | emptyHost | badPort | badIpv4 | badIpv6 | badDomain | badHostCharacter
deriving DecidableEq, Repr

def Error.message : Error → String
  | noScheme => "relative URL without a base"
  | emptyHost => "empty host"
  | badPort => "invalid port number"
  | badIpv4 => "invalid IPv4 address"
  | badIpv6 => "invalid IPv6 address"
  | badDomain => "invalid international domain name"
  | badHostCharacter => "invalid domain character"

inductive Host where
  | domain (name : List Char)
  | ipv4 (address : Nat)
  | ipv6 (groups : List Nat)
deriving DecidableEq, Repr

namespace Host

/-! ## IPv4 -/

def ofOctal (cs : List Char) : Nat := cs.foldl (fun n c => 8 * n + (c.toNat - '0'.toNat)) 0

/-- A number in decimal, in octal after `0`, or in hexadecimal after `0x`. -/
def number? : List Char → Option Nat
  | [] => none
  | '0' :: 'x' :: cs | '0' :: 'X' :: cs =>
    if cs.all Net.isHexDigit then some (Net.ofHex cs) else none
  | '0' :: c :: cs =>
    if (c :: cs).all fun d => '0' ≤ d && d ≤ '7' then some (ofOctal (c :: cs)) else none
  | cs => if cs.all Char.isDigit then some (Net.ofDecimal cs) else none

/-- The parts of a name between dots; a dot at the end makes no part of its own. -/
def parts (name : List Char) : List (List Char) :=
  let pieces := Text.splitChars '.' name
  if pieces.length ≠ 1 ∧ pieces.getLast? = some [] then pieces.dropLast else pieces

/-- Whether the last part of a name is a number, so that the name has to be an IPv4 address. -/
def endsInNumber (name : List Char) : Bool :=
  match (parts name).getLast? with
  | some cs => Net.isDecimal cs || (number? cs).isSome
  | none => false

/-- Up to four numbers, of which all but the last are single bytes and the last fills the bytes that
remain. -/
def ipv4? (name : List Char) : Option Nat := do
  let numbers ← (parts name).mapM number?
  let last ← numbers.getLast?
  let bytes := numbers.dropLast
  if bytes.length < 4 ∧ last < Nat.pow 256 (4 - bytes.length) ∧ bytes.all (· < 256) then
    some (bytes.foldl (fun n b => 256 * n + b) 0 * Nat.pow 256 (4 - bytes.length) + last)
  else none

/-! ## Reading -/

/-- An IPv6 address between brackets, of which the first has been read. -/
def bracketed (cs : List Char) : Except Error Host :=
  match (cs.getLast?, Net.ipv6? cs.dropLast) with
  | (some ']', some groups) => .ok (.ipv6 groups)
  | _ => .error .badIpv6

/-- The host of a URL with a special scheme: a domain name or an address. -/
def special (cs : List Char) : Except Error Host :=
  match cs with
  | '[' :: rest => bracketed rest
  | cs =>
    match (String.fromUTF8? ⟨(percentDecode cs).toArray⟩).bind fun s =>
        Domain.toAscii? s.toList with
    | none => .error .badDomain
    | some [] => .error .emptyHost
    | some name =>
      if endsInNumber name then ((ipv4? name).map ipv4).elim (.error .badIpv4) .ok else
        .ok (.domain name)

def isForbidden (c : Char) : Bool :=
  c ∈ ['\x00', '\t', '\n', '\r', ' ', '#', '/', ':', '<', '>', '?', '@', '[', '\\', ']', '^', '|']

/-- The host of a URL with another scheme: an address in brackets, or any name. -/
def other (cs : List Char) : Except Error Host :=
  match cs with
  | '[' :: rest => bracketed rest
  | cs =>
    if cs.any isForbidden then .error .badHostCharacter
    else .ok (.domain (percentEncode isControl cs))

/-! ## Writing -/

def writeIpv4 (address : Nat) : List Char :=
  List.intercalate ['.'] ([0x1000000, 0x10000, 0x100, 1].map fun place =>
    Nat.toDigits 10 (address / place % 256))

/-- The length of the run of zeros that `groups` starts with. -/
def zeros (groups : List Nat) : Nat := (groups.takeWhile (· = 0)).length

/-- The position and the length of the longest run of zeros, the first of several. -/
def longestZeros : List Nat → Nat × Nat
  | [] => (0, 0)
  | g :: rest =>
    let (i, n) := longestZeros rest
    if n ≤ zeros (g :: rest) then (0, zeros (g :: rest)) else (i + 1, n)

def writeGroups (groups : List Nat) : List Char :=
  List.intercalate [':'] (groups.map (Nat.toDigits 16))

/-- The groups in hexadecimal; `::` takes the place of the longest run of two zeros or more. -/
def writeIpv6 (groups : List Nat) : List Char :=
  let (i, n) := longestZeros groups
  if n < 2 then writeGroups groups
  else writeGroups (groups.take i) ++ [':', ':'] ++ writeGroups (groups.drop (i + n))

def text : Host → List Char
  | domain name => name
  | ipv4 address => writeIpv4 address
  | ipv6 groups => '[' :: writeIpv6 groups ++ [']']

end Host

end ServiceExposure.Url
