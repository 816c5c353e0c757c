/-! # Double precision numbers

The finite numbers of the binary64 format, as a sign and `mantissa · 2 ^ exponent`. A number has one
form: the mantissa is below `2 ^ 53`, and below `2 ^ 52` only with the least exponent. Rounding and
the search for the shortest decimal are done in exact integer arithmetic. -/

namespace ServiceExposure

structure Binary64 where
  negative : Bool
  mantissa : Nat
  exponent : Int
deriving DecidableEq, Repr

namespace Binary64

/-- One more than the largest mantissa. -/
def mantissaBound : Nat := 0x20000000000000

/-- The least mantissa, unless the exponent is the least one. -/
def leastMantissa : Nat := 0x10000000000000

def minExponent : Int := -1074

def maxExponent : Int := 971

def zero : Binary64 := ⟨false, 0, minExponent⟩

def neg (x : Binary64) : Binary64 := { x with negative := !x.negative }

def isZero (x : Binary64) : Bool := x.mantissa == 0

/-- Equality of numbers, under which the two zeros are one. -/
def agrees (x y : Binary64) : Bool := x == y || (x.isZero && y.isZero)

/-! ## Rounding -/

/-- The integer nearest to `num / den`; a half goes to the even one. -/
def roundHalfEven (num den : Nat) : Nat :=
  let q := num / den
  let r := num % den
  if 2 * r < den then q
  else if 2 * r > den then q + 1
  else if q % 2 = 0 then q else q + 1

/-- `num / den / 2 ^ exponent` as a fraction. -/
def scaled (num den : Nat) (exponent : Int) : Nat × Nat :=
  (num <<< (-exponent).toNat, den <<< exponent.toNat)

/-- The nearest number to `num / den`, or `none` if that is beyond the largest one. -/
def ofRatio? (num den : Nat) : Option Binary64 :=
  if num = 0 then some zero
  else
    let guess : Int := (num.log2 : Int) - den.log2 - 53
    let s := scaled num den guess
    let exponent := max minExponent (if s.1 / s.2 < mantissaBound then guess else guess + 1)
    let t := scaled num den exponent
    -- rounding up may reach the bound, which is the least mantissa of the next exponent
    let m := roundHalfEven t.1 t.2
    let x : Binary64 :=
      if m = mantissaBound then ⟨false, leastMantissa, exponent + 1⟩
      else ⟨false, m, exponent⟩
    if x.exponent ≤ maxExponent then some x else none

/-- The absolute value as a fraction. -/
def ratio (x : Binary64) : Nat × Nat :=
  (x.mantissa <<< x.exponent.toNat, 1 <<< (-x.exponent).toNat)

def mul? (x y : Binary64) : Option Binary64 :=
  (ofRatio? (x.ratio.1 * y.ratio.1) (x.ratio.2 * y.ratio.2)).map fun z =>
    { z with negative := x.negative != y.negative }

def div? (x y : Binary64) : Option Binary64 :=
  if y.isZero then none
  else (ofRatio? (x.ratio.1 * y.ratio.2) (x.ratio.2 * y.ratio.1)).map fun z =>
    { z with negative := x.negative != y.negative }

def tenPow? (n : Nat) : Option Binary64 := ofRatio? (Nat.pow 10 n) 1

/-! ## Shortest decimals -/

/-- The decimal `digits · 10 ^ exponent`. -/
structure Decimal where
  digits : Nat
  exponent : Int
deriving DecidableEq, Repr

/-- Removes zeros at the end of the digits; `fuel` bounds their number. -/
def Decimal.strip : Nat → Decimal → Decimal
  | 0, d => d
  | fuel + 1, d =>
    if d.digits ≠ 0 && d.digits % 10 = 0 then strip fuel ⟨d.digits / 10, d.exponent + 1⟩ else d

/-- The exponent of the first decimal digit of `num / den`, which is positive: the one of two
candidates that the binary logarithm leaves. -/
def leadingExponent (num den : Nat) : Int :=
  let bits : Int := (num.log2 : Int) - den.log2
  let guess := Int.fdiv ((bits - 1) * 30103) 100000
  let fits (e : Int) : Bool := den * Nat.pow 10 e.toNat ≤ num * Nat.pow 10 (-e).toNat
  if fits (guess + 1) then (if fits (guess + 2) then guess + 2 else guess + 1) else guess

/-- The points of the grid `10 ^ exponent` next to the number, if they lie in the interval of reals
that round to it; the nearer one of two, the even one of two equally near. -/
def nearestOnGrid? (x : Binary64) (exponent : Int) : Option Nat :=
  -- below a power of two the numbers lie twice as close
  let lowGap := if x.mantissa = leastMantissa && x.exponent > minExponent then 1 else 2
  let twos := Nat.pow 10 (-exponent).toNat <<< (x.exponent - 2).toNat
  let unit := Nat.pow 10 exponent.toNat <<< (2 - x.exponent).toNat
  let v := 4 * x.mantissa * twos
  let low := (4 * x.mantissa - lowGap) * twos
  let high := (4 * x.mantissa + 2) * twos
  let inside (d : Nat) : Bool :=
    -- halves go to the even mantissa, so the ends of the interval belong to it
    if x.mantissa % 2 = 0 then low ≤ d * unit && d * unit ≤ high
    else low < d * unit && d * unit < high
  let below := v / unit
  let above := below + 1
  match inside below && below ≠ 0, inside above with
  | true, true =>
    let toBelow := v - below * unit
    let toAbove := above * unit - v
    if toBelow < toAbove then some below
    else if toAbove < toBelow then some above
    else if below % 2 = 0 then some below else some above
  | true, false => some below
  | false, true => some above
  | false, false => none

/-- The decimal with the fewest digits that reads back as the number, and of those the nearest one.
Seventeen digits always suffice. -/
def shortest (x : Binary64) : Decimal :=
  if x.isZero then ⟨0, 0⟩
  else
    let lead := leadingExponent x.ratio.1 x.ratio.2
    let grids : List Int := (List.range 18).map fun (n : Nat) => lead - n
    let found := grids.findSome? fun grid => (nearestOnGrid? x grid).map fun d =>
      (⟨d, grid⟩ : Decimal)
    (found.getD ⟨x.ratio.1 / x.ratio.2, 0⟩).strip 20

end Binary64

end ServiceExposure
