import ServiceExposure.Unicode.Direction
import ServiceExposure.Unicode.Joining
import ServiceExposure.Unicode.Mapping
import ServiceExposure.Unicode.Mark
import ServiceExposure.Url.Punycode

/-! # Domain names

The ASCII form of a domain name: its characters are mapped, the text is composed, and each label
with other characters is written in Punycode after `xn--`. -/

namespace ServiceExposure.Url.Domain

/-- ASCII characters that no domain name has. -/
def isForbidden (c : Char) : Bool :=
  c.toNat ≤ 0x20 || c.toNat == 0x7f || c ∈ ['%', '#', '/', ':', '<', '>', '?', '@', '[', '\\',
    ']', '^', '|']

def isAscii (cs : List Char) : Bool := cs.all fun c => c.toNat < 128

/-- Whether a label is made of characters that mapping keeps, in composed form. -/
def isMapped (label : List Char) : Bool :=
  label.all (fun c => Unicode.mapChar? c = some [c]) && Unicode.composed label = label

/-- A label as it reads: one in Punycode is decoded, and must be the encoding of a label that needs
one. -/
def readable? (label : List Char) : Option (List Char) :=
  match Text.afterChars? "xn--".toList label with
  | none => some label
  | some encoded => do
    let decoded ← Punycode.decode? encoded
    if !isAscii decoded && isMapped decoded && encoded.getLast? ≠ some '-' then some decoded
    else none

/-- Whether marks and joiners of a readable label stand where they may. -/
def isSound (label : List Char) : Bool :=
  !label.head?.any Unicode.isMark && Unicode.Joining.isSound label && !label.any isForbidden

/-- Whether the labels can be displayed together. -/
def isSoundTogether (labels : List (List Char)) : Bool :=
  !(labels.any fun label => label.any fun c => (Unicode.Direction.of c).isRightToLeft) ||
    labels.all Unicode.Direction.isSound

def writeLabel (label : List Char) : List Char :=
  if isAscii label then label else "xn--".toList ++ Punycode.encode label

def toAscii? (name : List Char) : Option (List Char) := do
  let mapped ← name.mapM Unicode.mapChar?
  let labels ← (Text.splitChars '.' (Unicode.composed mapped.flatten)).mapM readable?
  if labels.all isSound && isSoundTogether labels then
    some (List.intercalate ['.'] (labels.map writeLabel))
  else none

end ServiceExposure.Url.Domain
