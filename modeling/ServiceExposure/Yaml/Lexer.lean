import ServiceExposure.Yaml.Tag

/-! # Reading tokens of YAML

Columns decide where block collections start and end. A scalar may turn out to be a key when a colon
follows on its line, so its place among the tokens is kept until then. -/

namespace ServiceExposure.Yaml

/-- A place where a key may have started. -/
structure KeyPlace where
  /-- The number of tokens in front of it. -/
  position : Nat
  start : Cell
  /-- Whether nothing but a key can stand here. -/
  isRequired : Bool

structure Lexer where
  rest : List Cell
  tokens : Array Token := #[]
  /-- Where a key may have started, for each open flow collection from the inside out, and last for
  the block. -/
  places : List (Option KeyPlace) := [none]
  /-- The columns of the open block collections, from the inside out. -/
  indents : List Nat := []
  /-- Whether a key may start here. -/
  mayStartKey : Bool := true

namespace Lexer

def inFlow (l : Lexer) : Bool := 1 < l.places.length

/-- The least column of text inside the block. -/
def least (l : Lexer) : Nat :=
  match l.indents with
  | [] => 0
  | indent :: _ => indent + 1

def column (l : Lexer) : Nat := peekColumn l.rest

def emit (l : Lexer) (token : Token) (rest : List Cell) : Lexer :=
  { l with rest, tokens := l.tokens.push token }

/-! ## Block collections -/

/-- Starts a block collection in a column to the right of the open ones; its start is put in front
of the token at `position`. -/
def openBlock (l : Lexer) (column position : Nat) (token : Token) : Lexer :=
  if !l.inFlow && l.least ≤ column then
    { l with indents := column :: l.indents, tokens := l.tokens.insertIdxIfInBounds position token }
  else l

/-- Ends the block collections that are to the right of all text from here on, of which `least` is
the column. -/
def closeBlocks (l : Lexer) (least : Option Nat) : Lexer :=
  if l.inFlow then l
  else
    let isClosed (indent : Nat) : Bool := least.all (· < indent)
    { l with
      indents := l.indents.dropWhile isClosed
      tokens := l.tokens ++ (l.indents.takeWhile isClosed).map fun _ => Token.blockEnd }

/-! ## Keys -/

/-- Whether a place can no longer be that of a key: a key stands on one line and is not overlong. -/
def isStale (here : Cell) (place : KeyPlace) : Bool :=
  place.start.line < here.line || place.start.index + 1024 < here.index

def dropIf? (p : KeyPlace → Bool) : Option KeyPlace → Option (Option KeyPlace)
  | none => some none
  | some place =>
    if p place then if place.isRequired then none else some none else some (some place)

/-- Gives up the places that are stale; fails if one of them needs a key. -/
def dropStale? (l : Lexer) : Option Lexer := do
  let here ← l.rest.head?
  return { l with places := ← l.places.mapM (dropIf? (isStale here)) }

/-- Gives up the innermost place; fails if it needs a key. -/
def dropPlace? (l : Lexer) : Option Lexer :=
  match l.places with
  | [] => none
  | place :: outer => do return { l with places := (← dropIf? (fun _ => true) place) :: outer }

/-- Keeps this place, where a key may start. -/
def markPlace? (l : Lexer) : Option Lexer :=
  if l.mayStartKey then do
    let here ← l.rest.head?
    let place : KeyPlace := {
      position := l.tokens.size
      start := here
      isRequired := !l.inFlow && l.indents.head? = some here.column }
    let l ← l.dropPlace?
    return { l with places := some place :: l.places.tail }
  else some l

/-! ## Between tokens -/

/-- Skips blanks, comments and line ends, and says whether a key may start after them. Tabs count as
blanks only where they cannot be taken for indentation. -/
def skipGap (inFlow mayStartKey inComment : Bool) : List Cell → Bool × List Cell
  | [] => (mayStartKey, [])
  | c :: rest =>
    if isBreak c.char then skipGap inFlow (mayStartKey || !inFlow) false rest
    else if isEnd c.char then (mayStartKey, c :: rest)
    else if inComment then skipGap inFlow mayStartKey true rest
    else if c.char = ' ' || (c.char = '\t' && (inFlow || !mayStartKey)) ||
        (c.char = '\ufeff' && c.column = 0) then
      skipGap inFlow mayStartKey false rest
    else if c.char = '#' then skipGap inFlow mayStartKey true rest
    else (mayStartKey, c :: rest)

/-- Goes on to the next token. -/
def advance? (l : Lexer) : Option Lexer := do
  let (mayStartKey, rest) := skipGap l.inFlow l.mayStartKey false l.rest
  let l ← { l with mayStartKey, rest }.dropStale?
  return l.closeBlocks (some l.column)

/-! ## Tokens -/

/-- A token that ends all block collections and is no part of one. -/
def outer? (l : Lexer) (token : Token) (rest : List Cell) : Option Lexer := do
  let l ← (l.closeBlocks none).dropPlace?
  return { l with mayStartKey := false }.emit token rest

/-- The start of a flow collection. -/
def openFlow? (l : Lexer) (token : Token) : Option Lexer := do
  let l ← l.markPlace?
  return { l with mayStartKey := true, places := none :: l.places }.emit token l.rest.tail

/-- The end of a flow collection. -/
def closeFlow? (l : Lexer) (token : Token) : Option Lexer := do
  let l ← l.dropPlace?
  let places := if l.inFlow then l.places.tail else l.places
  return { l with mayStartKey := false, places }.emit token l.rest.tail

def comma? (l : Lexer) : Option Lexer := do
  let l ← l.dropPlace?
  return { l with mayStartKey := true }.emit .comma l.rest.tail

/-- Starts a block collection here, where one may start. -/
def openBlockHere? (l : Lexer) (token : Token) : Option Lexer :=
  if l.inFlow then some l
  else if l.mayStartKey then some (l.openBlock l.column l.tokens.size token)
  else none

def entry? (l : Lexer) : Option Lexer := do
  let l ← (← l.openBlockHere? .blockSequence).dropPlace?
  return { l with mayStartKey := true }.emit .entry l.rest.tail

def key? (l : Lexer) : Option Lexer := do
  let l ← (← l.openBlockHere? .blockMapping).dropPlace?
  return { l with mayStartKey := !l.inFlow }.emit .key l.rest.tail

/-- The colon after a key. A key that no mark announced is announced now. -/
def value? (l : Lexer) : Option Lexer :=
  match l.places with
  | some place :: outer =>
    let l := { l with tokens := l.tokens.insertIdxIfInBounds place.position .key }
    let l := l.openBlock place.start.column place.position .blockMapping
    some ({ l with places := none :: outer, mayStartKey := false }.emit .value l.rest.tail)
  | _ => do
    let l ← l.openBlockHere? .blockMapping
    return { l with mayStartKey := !l.inFlow }.emit .value l.rest.tail

/-- A token that may be a key or the start of one. -/
def node? (l : Lexer) (result : Option (Token × List Cell)) : Option Lexer := do
  let (token, rest) ← result
  let l ← l.markPlace?
  return { l with mayStartKey := false }.emit token rest

def block? (l : Lexer) (style : Style) : Option Lexer := do
  let l ← l.dropPlace?
  let (text, rest) ← Yaml.block? (style = .folded) l.least l.rest.tail
  return { l with mayStartKey := true }.emit (.scalar style text) rest

/-- A plain scalar. When a line ends after it, a key may start on the next one. -/
def plain? (l : Lexer) : Option Lexer := do
  let (text, isBroken, rest) ← Yaml.plain? l.inFlow l.least l.rest
  let l ← l.markPlace?
  return { l with mayStartKey := isBroken }.emit (.scalar .plain text) rest

def quoted (result : Option (String × List Cell)) : Option (Token × List Cell) :=
  result.map fun (text, rest) => (.scalar .quoted text, rest)

/-- Reads one token. -/
def next? (l : Lexer) : Option Lexer :=
  let cs := l.rest
  let c := peek cs 0
  let isWord := isGap (peek cs 1)
  if l.column = 0 && c = '%' then do
    let (token, rest) ← directive? cs.tail
    l.outer? token rest
  else if isLineMark '-' cs then l.outer? .documentStart (cs.drop 3)
  else if isLineMark '.' cs then l.outer? .documentEnd (cs.drop 3)
  else if c = '[' then l.openFlow? .flowSequence
  else if c = '\x7b' then l.openFlow? .flowMapping
  else if c = ']' then l.closeFlow? .flowSequenceEnd
  else if c = '\x7d' then l.closeFlow? .flowMappingEnd
  else if c = ',' then l.comma?
  else if c = '-' && isWord then l.entry?
  else if c = '?' && (l.inFlow || isWord) then l.key?
  else if c = ':' && (l.inFlow || isWord) then l.value?
  else if c = '*' then l.node? ((anchorName? cs.tail).map fun (name, rest) => (.alias name, rest))
  else if c = '&' then l.node? ((anchorName? cs.tail).map fun (name, rest) => (.anchor name, rest))
  else if c = '!' then l.node? (tag? l.inFlow cs)
  else if c = '|' && !l.inFlow then l.block? .literal
  else if c = '>' && !l.inFlow then l.block? .folded
  else if c = '\'' then l.node? (quoted (singleQuotedFrom [] {} cs.tail))
  else if c = '"' then l.node? (quoted (doubleQuotedFrom [] {} cs.tail))
  else if startsPlain l.inFlow cs then l.plain?
  else none

/-- Reads all tokens. Each takes at least one character, so a step that takes none is refused. -/
def run? (l : Lexer) : Option (Array Token) := do
  let here ← l.advance?
  if isEnd (peek here.rest 0) then
    let ended ← (here.closeBlocks none).dropPlace?
    return ended.tokens
  else
    let after ← here.next?
    if _h : after.rest.length < l.rest.length then after.run? else none
termination_by l.rest.length

end Lexer

/-- The tokens of a text. -/
def tokens? (s : String) : Option (List Token) := do
  return (← Lexer.run? { rest := ← cells? s }).toList

end ServiceExposure.Yaml
