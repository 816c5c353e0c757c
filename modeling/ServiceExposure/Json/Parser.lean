import ServiceExposure.Json

/-! # Reading documents

Documents nest at most 127 deep. Text that is no document, a number beyond the range of double
precision and half a surrogate pair are refused. -/

namespace ServiceExposure

namespace Json

abbrev Input := List Char

def skipSpace (cs : Input) : Input :=
  cs.dropWhile fun c => c = ' ' || c = '\n' || c = '\t' || c = '\r'

/-! ## Numbers -/

def digitValue (c : Char) : Nat := c.toNat - '0'.toNat

def natOfDigits (ds : List Char) : Nat := ds.foldl (fun n d => 10 * n + digitValue d) 0

def maxWord : Nat := 0xffffffffffffffff

/-- The parts of a number as written. -/
structure NumberText where
  negative : Bool
  whole : List Char
  fraction : Option (List Char)
  exponent : Option Int

/-- At least one digit, and what follows the digits. -/
def takeDigits? (cs : Input) : Option (List Char × Input) :=
  let ds := cs.takeWhile Char.isDigit
  if ds.isEmpty then none else some (ds, cs.dropWhile Char.isDigit)

/-- Whole part: no leading zeros. -/
def takeWhole? (cs : Input) : Option (List Char × Input) :=
  match takeDigits? cs with
  | some ('0' :: _ :: _, _) => none
  | other => other

def takeFraction? : Input → Option (Option (List Char) × Input)
  | '.' :: cs => (takeDigits? cs).map fun p => (some p.1, p.2)
  | cs => some (none, cs)

def takeExponent? : Input → Option (Option Int × Input)
  | e :: cs =>
    if e = 'e' || e = 'E' then
      match cs with
      | '-' :: rest => (takeDigits? rest).map fun p => (some (-(natOfDigits p.1 : Int)), p.2)
      | '+' :: rest => (takeDigits? rest).map fun p => (some (natOfDigits p.1 : Int), p.2)
      | rest => (takeDigits? rest).map fun p => (some (natOfDigits p.1 : Int), p.2)
    else some (none, e :: cs)
  | [] => some (none, [])

/-- Appends digits to a significand as long as it fits a 64-bit word: the significand, and how many
digits were taken. -/
def extendWord (n : Nat) : List Char → Nat × Nat
  | [] => (n, 0)
  | d :: ds =>
    let next := 10 * n + digitValue d
    if next ≤ maxWord then
      let (m, taken) := extendWord next ds
      (m, taken + 1)
    else (n, 0)

/-- Scales by a power of ten: one rounding for the power and one for the product. Exponents below
the least power are reached in steps. -/
def scaleByTen : Nat → Binary64 → Int → Option Binary64
  | 0, x, _ => some x
  | steps + 1, x, exponent =>
    if exponent.natAbs ≤ 308 then do
      let power ← Binary64.tenPow? exponent.natAbs
      if 0 ≤ exponent then x.mul? power else x.div? power
    else if x.isZero then some x
    else if 0 ≤ exponent then none
    else do
      let power ← Binary64.tenPow? 308
      scaleByTen steps (← x.div? power) (exponent + 308)

/-- An integer if it is written as one and fits a signed or unsigned 64-bit word, else a double
precision number. Digits beyond a 64-bit significand count for its magnitude only. -/
def NumberText.value? (t : NumberText) : Option Json :=
  let (word, taken) := extendWord 0 t.whole
  let dropped := t.whole.length - taken
  match t.fraction, t.exponent with
  | none, none =>
    if dropped = 0 && !t.negative then some (.int word)
    else if dropped = 0 && 0 < word && word ≤ 0x8000000000000000 then some (.int (-word))
    else float word dropped
  | fraction, exponent =>
    let (word, taken) := extendWord word (fraction.getD [])
    let exponent := exponent.getD 0
    if word = 0 || exponent < -0x80000000 then float 0 0
    else if 0x80000000 ≤ exponent then none
    else float word (dropped - taken + exponent)
where
  float (word : Nat) (exponent : Int) : Option Json := do
    let x ← scaleByTen 8 (← Binary64.ofRatio? word 1) exponent
    return .float (if t.negative then x.neg else x)

def number? (cs : Input) : Option (Json × Input) := do
  let (negative, cs) := match cs with
    | '-' :: rest => (true, rest)
    | _ => (false, cs)
  let (whole, cs) ← takeWhole? cs
  let (fraction, cs) ← takeFraction? cs
  let (exponent, cs) ← takeExponent? cs
  let j ← NumberText.value? ⟨negative, whole, fraction, exponent⟩
  return (j, cs)

/-! ## Strings -/

def hexValue? (c : Char) : Option Nat :=
  if '0' ≤ c && c ≤ '9' then some (c.toNat - '0'.toNat)
  else if 'a' ≤ c && c ≤ 'f' then some (c.toNat - 'a'.toNat + 10)
  else if 'A' ≤ c && c ≤ 'F' then some (c.toNat - 'A'.toNat + 10)
  else none

def unit? (a b c d : Char) : Option Nat := do
  return (((← hexValue? a) * 16 + (← hexValue? b)) * 16 + (← hexValue? c)) * 16 + (← hexValue? d)

def isHighSurrogate (n : Nat) : Bool := 0xd800 ≤ n && n < 0xdc00

def isLowSurrogate (n : Nat) : Bool := 0xdc00 ≤ n && n < 0xe000

def simpleEscape? (c : Char) : Option Char :=
  if c = '"' || c = '\\' || c = '/' then some c
  else if c = 'b' then some '\x08'
  else if c = 'f' then some '\x0c'
  else if c = 'n' then some '\n'
  else if c = 'r' then some '\r'
  else if c = 't' then some '\t'
  else none

/-- The rest of a string after its opening quote; `seen` holds the characters so far, the last one
first. -/
def stringRest? (seen : List Char) : Input → Option (String × Input)
  | '"' :: rest => some (.ofList seen.reverse, rest)
  | '\\' :: 'u' :: a :: b :: c :: d :: '\\' :: 'u' :: e :: f :: g :: h :: rest =>
    match unit? a b c d with
    | none => none
    | some high =>
      if isHighSurrogate high then
        match unit? e f g h with
        | none => none
        | some low =>
          if isLowSurrogate low then
            stringRest? (Char.ofNat (0x10000 + (high - 0xd800) * 0x400 + (low - 0xdc00)) :: seen)
              rest
          else none
      -- the second half of a pair cannot stand alone, and the first half not without it
      else if isLowSurrogate high then none
      else stringRest? (Char.ofNat high :: seen) ('\\' :: 'u' :: e :: f :: g :: h :: rest)
  | '\\' :: 'u' :: a :: b :: c :: d :: rest =>
    match unit? a b c d with
    | none => none
    | some n =>
      if isHighSurrogate n || isLowSurrogate n then none
      else stringRest? (Char.ofNat n :: seen) rest
  | '\\' :: c :: rest =>
    match simpleEscape? c with
    | none => none
    | some e => stringRest? (e :: seen) rest
  | c :: rest => if c.toNat < 0x20 || c = '\\' then none else stringRest? (c :: seen) rest
  | [] => none

/-! ## Documents -/

def literal? (word : String) (value : Json) (cs : Input) : Option (Json × Input) :=
  if word.toList.isPrefixOf cs then some (value, cs.drop word.length) else none

mutual

/-- A document and what follows it. Each call uses up input or one unit of `fuel`; `depth` is how
much deeper arrays and objects may nest. -/
def value? : (fuel depth : Nat) → Input → Option (Json × Input)
  | 0, _, _ => none
  | fuel + 1, depth, cs =>
    match skipSpace cs with
    | '"' :: rest => (stringRest? [] rest).map fun p => (.string p.1, p.2)
    | '[' :: rest =>
      match depth with
      | 0 => none
      | depth + 1 =>
        match skipSpace rest with
        | ']' :: rest => some (.array [], rest)
        | rest => (items? fuel depth rest).map fun p => (.array p.1, p.2)
    | '\x7b' :: rest =>
      match depth with
      | 0 => none
      | depth + 1 =>
        match skipSpace rest with
        | '\x7d' :: rest => some (.object [], rest)
        | rest => (members? fuel depth rest).map fun p => (ofMembers p.1, p.2)
    | 't' :: rest => literal? "true" (.bool true) ('t' :: rest)
    | 'f' :: rest => literal? "false" (.bool false) ('f' :: rest)
    | 'n' :: rest => literal? "null" .null ('n' :: rest)
    | rest => number? rest

def items? : (fuel depth : Nat) → Input → Option (List Json × Input)
  | 0, _, _ => none
  | fuel + 1, depth, cs => do
    let (item, rest) ← value? fuel depth cs
    match skipSpace rest with
    | ',' :: rest =>
      let (items, rest) ← items? fuel depth rest
      return (item :: items, rest)
    | ']' :: rest => return ([item], rest)
    | _ => none

def members? : (fuel depth : Nat) → Input → Option (Members × Input)
  | 0, _, _ => none
  | fuel + 1, depth, cs => do
    match skipSpace cs with
    | '"' :: rest =>
      let (key, rest) ← stringRest? [] rest
      match skipSpace rest with
      | ':' :: rest =>
        let (value, rest) ← value? fuel depth rest
        match skipSpace rest with
        | ',' :: rest =>
          let (members, rest) ← members? fuel depth rest
          return ((key, value) :: members, rest)
        | '\x7d' :: rest => return ([(key, value)], rest)
        | _ => none
      | _ => none
    | _ => none

end

def maxDepth : Nat := 127

/-- Reads a text that holds one document and nothing else. -/
def parse? (s : String) : Option Json :=
  let cs := s.toList
  -- every character costs two units at most, so the fuel does not run out
  match value? (2 * cs.length + 2) maxDepth cs with
  | some (j, rest) => if (skipSpace rest).isEmpty then some j else none
  | none => none

end Json

end ServiceExposure
