import ServiceExposure.Text.Cut

/-! # Tables of code points

Data of the Unicode standard is written as lines of text: numbers in base 16, separated by
blanks. -/

namespace ServiceExposure.Unicode

def hexValue (c : Char) : Nat :=
  if c.isDigit then c.toNat - '0'.toNat else c.toNat - 'a'.toNat + 10

/-- The numbers of a line. -/
def lineNumbers (line : String) : List Nat :=
  ((Text.splitChars ' ' line.toList).filter fun cs => !cs.isEmpty).map fun cs =>
    cs.foldl (fun n c => 16 * n + hexValue c) 0

def numbers (lines : List String) : List Nat := lines.flatMap lineNumbers

/-- The code points `first`, `first + step`, … up to `last`, with what the table says of the first
of them. -/
structure Run where
  first : Nat
  last : Nat
  step : Nat
  value : Nat
deriving Inhabited

/-- Disjoint runs in ascending order. -/
structure Table where
  runs : Array Run

namespace Table

def pairs : List Nat → List Run
  | first :: last :: rest => ⟨first, last, 1, 1⟩ :: pairs rest
  | _ => []

def triples : List Nat → List Run
  | first :: last :: value :: rest => ⟨first, last, 1, value⟩ :: triples rest
  | _ => []

def quadruples : List Nat → List Run
  | first :: last :: step :: value :: rest => ⟨first, last, step, value⟩ :: quadruples rest
  | _ => []

/-- A set, as the first and the last code point of each range. -/
def ofPairs (lines : List String) : Table := ⟨(pairs (numbers lines)).toArray⟩

/-- A property with a value for each range. -/
def ofTriples (lines : List String) : Table := ⟨(triples (numbers lines)).toArray⟩

/-- A property that grows along each run. -/
def ofQuadruples (lines : List String) : Table := ⟨(quadruples (numbers lines)).toArray⟩

/-- The run that holds `c` among those with an index from `lo` up to `hi`. -/
def search (runs : Array Run) (c lo hi : Nat) : Option Run :=
  if _h : lo < hi then
    let mid := (lo + hi) / 2
    let run := runs[mid]!
    if c < run.first then search runs c lo mid
    else if run.last < c then search runs c (mid + 1) hi
    else if (c - run.first) % run.step = 0 then some run else none
  else none
termination_by hi - lo

def run? (t : Table) (c : Char) : Option Run := search t.runs c.toNat 0 t.runs.size

def contains (t : Table) (c : Char) : Bool := (t.run? c).isSome

/-- The value of the range that holds `c`. -/
def value? (t : Table) (c : Char) : Option Nat := (t.run? c).map (·.value)

end Table

end ServiceExposure.Unicode
