/-! # Characters in place

A text is read as cells, each a character with its place. Line ends are one cell each, and the last
cell is an end mark that no text contains. -/

namespace ServiceExposure.Yaml

structure Cell where
  char : Char
  index : Nat
  line : Nat
  column : Nat
deriving DecidableEq, Repr

/-! ## Kinds of characters -/

def isEnd (c : Char) : Bool := c = '\x00'

def isBlank (c : Char) : Bool := c = ' ' || c = '\t'

/-- Line feeds and the separators of lines and paragraphs. Other line ends are read as line
feeds. -/
def isBreak (c : Char) : Bool := c = '\n' || c = '\u2028' || c = '\u2029'

def isBreakOrEnd (c : Char) : Bool := isBreak c || isEnd c

/-- Whether no word goes on with the character. -/
def isGap (c : Char) : Bool := isBlank c || isBreakOrEnd c

def isNameChar (c : Char) : Bool := c.isAlphanum || c = '_' || c = '-'

/-- Characters that may stand in a text at all. -/
def isAllowed (c : Char) : Bool :=
  c = '\t' || c = '\n' || c = '\r' || (' ' ≤ c && c ≤ '~') || c = '\x85' ||
    ('\xa0' ≤ c && c ≤ '\ufffd') ||
    0x10000 ≤ c.toNat

/-! ## Cells -/

def cellsFrom (index line column : Nat) : List Char → List Cell
  | [] => [⟨'\x00', index, line, column⟩]
  | '\r' :: '\n' :: rest => ⟨'\n', index, line, column⟩ :: cellsFrom (index + 2) (line + 1) 0 rest
  | c :: rest =>
    if c = '\r' || c = '\x85' || isBreak c then
      ⟨if isBreak c then c else '\n', index, line,
        column⟩ :: cellsFrom (index + 1) (line + 1) 0 rest
    else ⟨c, index, line, column⟩ :: cellsFrom (index + 1) line (column + 1) rest

/-- A byte order mark at the start of a text is no part of it. -/
def withoutMark : List Char → List Char
  | '\ufeff' :: rest => rest
  | cs => cs

/-- The cells of a text of allowed characters. -/
def cells? (s : String) : Option (List Cell) :=
  if s.toList.all isAllowed then some (cellsFrom 0 0 0 (withoutMark s.toList)) else none

/-- The character `i` cells on. -/
def peek (cs : List Cell) (i : Nat) : Char := (cs[i]?.map (·.char)).getD '\x00'

def peekColumn (cs : List Cell) : Nat := (cs.head?.map (·.column)).getD 0

/-- The characters at the start that `p` holds of, and the rest. -/
def spanText (p : Char → Bool) (cs : List Cell) : String × List Cell :=
  let (text, rest) := cs.span fun c => p c.char
  (.ofList (text.map (·.char)), rest)

def skipWhile (p : Char → Bool) (cs : List Cell) : List Cell := cs.dropWhile fun c => p c.char

/-- Whether a line starts here with the three characters, as a word. -/
def isLineMark (c : Char) (cs : List Cell) : Bool :=
  peekColumn cs = 0 && peek cs 0 = c && peek cs 1 = c && peek cs 2 = c && isGap (peek cs 3)

/-- Whether a line starts here that starts or ends a document. -/
def isDocumentMark (cs : List Cell) : Bool := isLineMark '-' cs || isLineMark '.' cs

/-- Skips blanks and a comment up to the end of the line, and the line end. -/
def skipLine? (cs : List Cell) : Option (List Cell) :=
  let afterBlanks := skipWhile isBlank cs
  let rest :=
    if peek afterBlanks 0 = '#' then skipWhile (!isBreakOrEnd ·) afterBlanks
    else afterBlanks
  if isBreak (peek rest 0) then some rest.tail
  else if isEnd (peek rest 0) then some rest
  else none

end ServiceExposure.Yaml
