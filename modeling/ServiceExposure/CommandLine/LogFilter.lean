import ServiceExposure.Net.Address
import ServiceExposure.Text.Blank
import ServiceExposure.Text.Cut

/-! # Log filters

A filter is a list of directives between commas. Each sets a level for all messages, or for those of
a target or a span. -/

namespace ServiceExposure.LogFilter

def levels : List String := ["trace", "debug", "info", "warn", "error", "off"]

/-- The name of a level in any case, or its number. -/
def isLevel (cs : List Char) : Bool :=
  levels.contains (Text.lowerAscii (.ofList cs)) ||
    let digits := if cs.head? = some '+' then cs.tail else cs
    Net.isDecimal digits && Net.ofDecimal digits ≤ 5

/-- Letters, digits and a few marks. All characters outside ASCII count as letters. -/
def startsTarget (c : Char) : Bool :=
  c.isAlphanum || c = '_' || c = ':' || c = '-' || 0xa0 < c.toNat

/-- What follows a span after its opening bracket. The span may have a field between braces, in
front of its closing bracket. -/
def afterSpan? (cs : List Char) : Option (List Char) :=
  match cs.dropWhile fun c => c ≠ ']' && c ≠ '\x7b' with
  | ']' :: rest => some rest
  | _ :: rest =>
    match Text.cutChars? ['\x7d'] rest with
    | some (_ :: _, ']' :: rest) => some rest
    | _ => none
  | [] => none

/-- What follows the target, the span or both that a directive starts with. -/
def afterNames? (cs : List Char) : Option (List Char) :=
  match cs with
  | '[' :: rest => afterSpan? rest
  | c :: rest =>
    if startsTarget c then
      match rest.dropWhile fun c => c ≠ '=' && c ≠ '[' with
      | '[' :: rest => afterSpan? rest
      | rest => some rest
    else none
  | [] => none

/-- A level alone is a directive as any target is. After an equals sign the level may be missing,
but then and with a level no blanks may stand around the directive. -/
def isDirective (cs : List Char) : Bool :=
  let trimmed := Text.trimChars cs
  match afterNames? trimmed with
  | some [] => true
  | some ('=' :: level) => trimmed = cs && (level.isEmpty || isLevel level)
  | _ => false

def isValid (s : String) : Bool :=
  ((Text.splitChars ',' s.toList).filter fun cs => !cs.isEmpty).all isDirective

example :
    isValid "" = true ∧ isValid "info" = true ∧ isValid "a::b=debug,warn" = true := by
  decide +kernel
example :
    isValid "a=[" = false ∧ isValid "[s\x7bf=1\x7d]=2" = true ∧ isValid "!" = false := by
  decide +kernel

end ServiceExposure.LogFilter
