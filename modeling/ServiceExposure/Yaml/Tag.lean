import ServiceExposure.Yaml.Scalar
import ServiceExposure.Yaml.Token

/-! # Properties and directives of YAML

Anchors, aliases and tags, and the directives in front of a document. -/

namespace ServiceExposure.Yaml

/-! ## Anchors -/

/-- The name of an anchor or an alias, after its mark. -/
def anchorName? (cs : List Cell) : Option (String × List Cell) :=
  let (name, rest) := spanText isNameChar cs
  let next := peek rest 0
  if name.isEmpty then none
  else if isGap next || "?:,]\x7d%@\x60".toList.contains next then some (name, rest)
  else none

/-! ## Tags -/

/-- One byte written as `%` and two hexadecimal digits. -/
def escapedByte? (cs : List Cell) : Option Nat :=
  if peek cs 0 = '%' then hexDigits? 2 (cs.drop 1) else none

/-- How many bytes a character takes, by its first byte. -/
def byteCount? (b : Nat) : Option Nat :=
  if b < 0x80 then some 1
  else if 0xc0 ≤ b ∧ b < 0xe0 then some 2
  else if 0xe0 ≤ b ∧ b < 0xf0 then some 3
  else if 0xf0 ≤ b ∧ b < 0xf8 then some 4
  else none

/-- Reads one character of a tag that is written byte by byte, and how many cells it takes. -/
def escapedChar? (cs : List Cell) : Option (Char × Nat) := do
  let first ← escapedByte? cs
  let count ← byteCount? first
  let others ← (List.range (count - 1)).mapM fun i => escapedByte? (cs.drop (3 * (i + 1)))
  if others.all fun b => 0x80 ≤ b && b < 0xc0 then
    let lead := if count = 1 then first else first % (0x80 >>> count)
    some (.ofNat (others.foldl (fun n b => 64 * n + b % 64) lead), 3 * count)
  else none

/-- Characters of tags; brackets and commas only where the tag cannot be part of a flow
collection. -/
def isTagChar (alone : Bool) (c : Char) : Bool :=
  isNameChar c || ";/?:@&=+$.!~*'()".toList.contains c || (alone && (c = ',' || c = '[' || c = ']'))

def tagText? (alone : Bool) : List Cell → Option (List Char × List Cell)
  | [] => some ([], [])
  | c :: rest =>
    if c.char = '%' then
      match escapedChar? (c :: rest) with
      | none => none
      | some (e, n) => do
        let (text, after) ← tagText? alone (rest.drop (n - 1))
        return (e :: text, after)
    else if isTagChar alone c.char then do
      let (text, after) ← tagText? alone rest
      return (c.char :: text, after)
    else some ([], c :: rest)
termination_by cs => cs.length
decreasing_by all_goals simp only [List.length_cons, List.length_drop]; omega

def tagString? (alone : Bool) (cs : List Cell) : Option (String × List Cell) :=
  (tagText? alone cs).map fun p => (.ofList p.1, p.2)

/-- A handle: an exclamation mark, or a name between two. Where it is not closed, it may be the
start of a tag. -/
def handle? (cs : List Cell) : Option (String × List Cell) :=
  if peek cs 0 = '!' then
    let (name, rest) := spanText isNameChar cs.tail
    if peek rest 0 = '!' then some ("!" ++ name ++ "!", rest.tail) else some ("!" ++ name, rest)
  else none

def isClosedHandle (handle : String) : Bool :=
  handle ≠ "!" && handle.toList.getLast? = some '!'

/-- A tag with its handle: in full between angle brackets, after a handle, or after the mark
alone. -/
def tag? (inFlow : Bool) (cs : List Cell) : Option (Token × List Cell) := do
  let (handle, suffix, rest) ←
    if peek cs 1 = '<' then do
      let (suffix, rest) ← tagString? true (cs.drop 2)
      if suffix.isEmpty || peek rest 0 ≠ '>' then none else some ("", suffix, rest.tail)
    else do
      let (handle, afterHandle) ← handle? cs
      let (text, rest) ← tagString? false afterHandle
      if isClosedHandle handle then if text.isEmpty then none else some (handle, text, rest)
      else
        let suffix := Text.withoutFirst '!' handle ++ text
        some (if suffix.isEmpty then ("", "!", rest) else ("!", suffix, rest))
  if isGap (peek rest 0) || (inFlow && peek rest 0 = ',') then some (.tag handle suffix, rest)
  else none

/-! ## Directives -/

/-- A part of a version: one to nine digits. -/
def versionNumber? (cs : List Cell) : Option (Nat × List Cell) :=
  let (digits, rest) := spanText Char.isDigit cs
  if 1 ≤ digits.length ∧ digits.length ≤ 9 then some (Net.ofDecimal digits.toList, rest) else none

def versionDirective? (cs : List Cell) : Option (Token × List Cell) := do
  let (major, rest) ← versionNumber? (skipWhile isBlank cs)
  if peek rest 0 ≠ '.' then none
  let (minor, rest) ← versionNumber? rest.tail
  return (.version major minor, rest)

def tagDirective? (cs : List Cell) : Option (Token × List Cell) := do
  let (handle, afterHandle) ← handle? (skipWhile isBlank cs)
  if handle ≠ "!" && !isClosedHandle handle then none
  if !isBlank (peek afterHandle 0) then none
  let (start, rest) ← tagString? true (skipWhile isBlank afterHandle)
  if start.isEmpty || !isGap (peek rest 0) then none
  return (.shorthand handle start, rest)

/-- A directive after its mark, with the rest of its line. -/
def directive? (cs : List Cell) : Option (Token × List Cell) := do
  let (name, afterName) := spanText isNameChar cs
  if !isGap (peek afterName 0) then none
  let (token, rest) ←
    match name with
    | "YAML" => versionDirective? afterName
    | "TAG" => tagDirective? afterName
    | _ => none
  return (token, ← skipLine? rest)

end ServiceExposure.Yaml
