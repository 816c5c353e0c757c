import ServiceExposure.Net.Address
import ServiceExposure.Yaml.Cell

/-! # Scalars of YAML

Plain, quoted and block scalars. Where a scalar goes over several lines, the gap between two words
is folded: one line end becomes a space, and of several the first is dropped. -/

namespace ServiceExposure.Yaml

/-! ## Gaps -/

/-- The blanks and line ends since the last word. -/
structure Gap where
  blanks : List Char := []
  isBroken : Bool := false
  /-- The first line end, if it has to be kept or folded. -/
  first : Option Char := none
  breaks : List Char := []

namespace Gap

def isEmpty (g : Gap) : Bool := g.blanks.isEmpty && !g.isBroken

/-- Blanks count only as long as the line goes on. -/
def addBlank (g : Gap) (c : Char) : Gap :=
  if g.isBroken then g else { g with blanks := g.blanks ++ [c] }

def addBreak (g : Gap) (c : Char) : Gap :=
  if g.isBroken then { g with breaks := g.breaks ++ [c] } else { isBroken := true, first := some c }

/-- What the gap stands for. -/
def text (g : Gap) : List Char :=
  if !g.isBroken then g.blanks
  else if g.first = some '\n' then if g.breaks.isEmpty then [' '] else g.breaks
  else g.first.toList ++ g.breaks

end Gap

/-! ## Plain scalars -/

def isFlowMark (c : Char) : Bool := c ∈ [',', '[', ']', '\x7b', '\x7d']

/-- Whether the cell starts a plain scalar. -/
def startsPlain (inFlow : Bool) (cs : List Cell) : Bool :=
  let c := peek cs 0
  let next := peek cs 1
  let marks := "-?:,[]\x7b\x7d#&*!|>'\"%@\x60".toList
  !(isGap c || marks.contains c) || (c = '-' && !isBlank next) ||
    (!inFlow && (c = '?' || c = ':') && !isGap next)

/-- Whether a plain scalar ends in front of the cells, after the gap. -/
def endsPlain (inFlow : Bool) (indent : Nat) (g : Gap) (cs : List Cell) : Bool :=
  let c := peek cs 0
  isEnd c || (c = ':' && isGap (peek cs 1)) || (inFlow && isFlowMark c) ||
    (!g.isEmpty && (c = '#' || (!inFlow && peekColumn cs < indent) || isDocumentMark cs))

/-- The text of a plain scalar, whether a line ended after it, and the rest. Lines after the first
are indented by `indent` at least, without tabs. -/
def plainFrom (inFlow : Bool) (indent : Nat) (text : List Char) (g : Gap) :
    List Cell → Option (String × Bool × List Cell)
  | [] => some (.ofList text.reverse, g.isBroken, [])
  | c :: rest =>
    if isBlank c.char then
      if g.isBroken && c.char = '\t' && c.column < indent then none
      else plainFrom inFlow indent text (g.addBlank c.char) rest
    else if isBreak c.char then plainFrom inFlow indent text (g.addBreak c.char) rest
    else if !g.isEmpty && endsPlain inFlow indent g (c :: rest) then
      some (.ofList text.reverse, g.isBroken, c :: rest)
    else if inFlow && c.char = ':' && (isFlowMark (peek rest 0) || peek rest 0 = '?') then none
    else if endsPlain inFlow indent g (c :: rest) then
      some (.ofList text.reverse, g.isBroken, c :: rest)
    else plainFrom inFlow indent (c.char :: (g.text.reverse ++ text)) {} rest

def plain? (inFlow : Bool) (indent : Nat) (cs : List Cell) : Option (String × Bool × List Cell) :=
  plainFrom inFlow indent [] {} cs

/-! ## Quoted scalars -/

def hexDigits? (n : Nat) (cs : List Cell) : Option Nat :=
  let digits := (cs.take n).map (·.char)
  if digits.length = n && digits.all Net.isHexDigit then some (Net.ofHex digits) else none

/-- The character that an escape stands for, by the character after the backslash, and how many
cells follow that one. -/
def escape? (c : Char) (cs : List Cell) : Option (Char × Nat) :=
  let code (n : Nat) : Option (Char × Nat) := do
    let value ← hexDigits? n cs
    if h : value.isValidChar then some (Char.ofNatAux value h, n) else none
  match c with
  | '0' => some ('\x00', 0)
  | 'a' => some ('\x07', 0)
  | 'b' => some ('\x08', 0)
  | 't' | '\t' => some ('\t', 0)
  | 'n' => some ('\n', 0)
  | 'v' => some ('\x0b', 0)
  | 'f' => some ('\x0c', 0)
  | 'r' => some ('\r', 0)
  | 'e' => some ('\x1b', 0)
  | ' ' | '"' | '/' | '\\' => some (c, 0)
  | 'N' => some ('\x85', 0)
  | '_' => some ('\xa0', 0)
  | 'L' => some ('\u2028', 0)
  | 'P' => some ('\u2029', 0)
  | 'x' => code 2
  | 'u' => code 4
  | 'U' => code 8
  | _ => none

/-- The text up to a single quote; two of them stand for one. -/
def singleQuotedFrom (text : List Char) (g : Gap) : List Cell → Option (String × List Cell)
  | [] => none
  | c :: rest =>
    if isBlank c.char then singleQuotedFrom text (g.addBlank c.char) rest
    else if isBreak c.char then singleQuotedFrom text (g.addBreak c.char) rest
    else if isEnd c.char || isDocumentMark (c :: rest) then none
    else
      let joined := g.text.reverse ++ text
      if c.char = '\'' then
        match rest with
        | d :: after =>
          if d.char = '\'' then singleQuotedFrom ('\'' :: joined) {} after
          else some (.ofList joined.reverse, rest)
        | [] => some (.ofList joined.reverse, rest)
      else singleQuotedFrom (c.char :: joined) {} rest

/-- The text up to a double quote. A backslash escapes a character, or a line end with the blanks
after it. -/
def doubleQuotedFrom (text : List Char) (g : Gap) : List Cell → Option (String × List Cell)
  | [] => none
  | c :: rest =>
    if isBlank c.char then doubleQuotedFrom text (g.addBlank c.char) rest
    else if isBreak c.char then doubleQuotedFrom text (g.addBreak c.char) rest
    else if isEnd c.char || isDocumentMark (c :: rest) then none
    else
      let joined := g.text.reverse ++ text
      if c.char = '"' then some (.ofList joined.reverse, rest)
      else if c.char = '\\' then
        match rest with
        | d :: after =>
          if isBreak d.char then doubleQuotedFrom joined { isBroken := true } after
          else
            match escape? d.char after with
            | some (e, n) => doubleQuotedFrom (e :: joined) {} (after.drop n)
            | none => none
        | [] => none
      else doubleQuotedFrom (c.char :: joined) {} rest
termination_by cs => cs.length
decreasing_by all_goals simp only [List.length_cons, List.length_drop]; omega

/-! ## Block scalars -/

/-- Which line ends at the end of a block scalar are kept: none, one or all. -/
inductive Chomping where
  | strip | clip | keep
deriving DecidableEq, Repr

def chomping? (c : Char) : Option Chomping :=
  if c = '+' then some .keep else if c = '-' then some .strip else none

def indentDigit? (c : Char) : Option Nat :=
  if '1' ≤ c ∧ c ≤ '9' then some (c.toNat - '0'.toNat) else none

/-- Chomping and indentation, in either order, and the rest. -/
def blockHeader (cs : List Cell) : Chomping × Option Nat × List Cell :=
  match chomping? (peek cs 0) with
  | some chomping =>
    match indentDigit? (peek cs 1) with
    | some n => (chomping, some n, cs.drop 2)
    | none => (chomping, none, cs.drop 1)
  | none =>
    match indentDigit? (peek cs 0) with
    | some n =>
      match chomping? (peek cs 1) with
      | some chomping => (chomping, some n, cs.drop 2)
      | none => (.clip, some n, cs.drop 1)
    | none => (.clip, none, cs)

/-- The indentation of the first line with text, or of a longer blank line before it. -/
def blockIndent? (largest : Nat) : List Cell → Option Nat
  | [] => some largest
  | c :: rest =>
    if c.char = ' ' then blockIndent? largest rest
    else if c.char = '\t' then none
    else if isBreak c.char then blockIndent? (max largest c.column) rest
    else some (max largest c.column)

/-- The lines of a block scalar read so far. -/
structure Block where
  text : List Char := []
  /-- The end of the last line. -/
  first : Option Char := none
  /-- The ends of the empty lines after it. -/
  breaks : List Char := []
  /-- Whether the last line started with a blank. -/
  wasIndented : Bool := false

namespace Block

/-- Starts a line. Between two lines that start without blanks a folded scalar has a gap. -/
def startLine (b : Block) (folded : Bool) (c : Char) : Block :=
  let joint :=
    if folded && b.first = some '\n' && !b.wasIndented && !isBlank c then
      if b.breaks.isEmpty then [' '] else b.breaks
    else b.first.toList ++ b.breaks
  { text := c :: (joint.reverse ++ b.text), wasIndented := isBlank c }

/-- The text, with the line ends at its end that are kept. -/
def finish (b : Block) (chomping : Chomping) : String :=
  let tail :=
    match chomping with
    | .strip => []
    | .clip => b.first.toList
    | .keep => b.first.toList ++ b.breaks
  .ofList (b.text.reverse ++ tail)

end Block

/-- Reads lines that are indented by `indent`; `inLine` says whether a line has been started. -/
def blockFrom (folded : Bool) (indent : Nat) (inLine : Bool) (b : Block) :
    List Cell → Option (Block × List Cell)
  | [] => some (b, [])
  | c :: rest =>
    if isBreak c.char then
      blockFrom folded indent false
        (if inLine then { b with first := some c.char, breaks := [] }
          else { b with breaks := b.breaks ++ [c.char] }) rest
    else if isEnd c.char then some (b, c :: rest)
    else if inLine then blockFrom folded indent true { b with text := c.char :: b.text } rest
    else if c.column < indent then
      if c.char = ' ' then blockFrom folded indent false b rest
      else if c.char = '\t' then none
      else some (b, c :: rest)
    else if c.column = indent then blockFrom folded indent true (b.startLine folded c.char) rest
    else some (b, c :: rest)

/-- A block scalar after its mark, in a block indented by less than `least`. -/
def block? (folded : Bool) (least : Nat) (cs : List Cell) : Option (String × List Cell) := do
  let (chomping, increment, afterHeader) := blockHeader cs
  let lines ← skipLine? afterHeader
  let indent ←
    match increment with
    | some n => some (least - 1 + n)
    | none => (blockIndent? 0 lines).map fun n => max n (max least 1)
  let (b, rest) ← blockFrom folded indent false {} lines
  return (b.finish chomping, rest)

end ServiceExposure.Yaml
