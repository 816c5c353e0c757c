import ServiceExposure.Text.Cut

/-! # Punycode

A label with any letters is written with ASCII characters alone: those it has, a hyphen, and the
other characters in ascending order as steps from one to the next. A step is a number whose digits
weigh by thresholds that follow the size of the steps before. -/

namespace ServiceExposure.Url.Punycode

/-! ## Digits -/

/-- The letters stand for 0 to 25 and the decimal digits for 26 to 35. -/
def digit (d : Nat) : Char :=
  if d < 26 then .ofNat ('a'.toNat + d) else .ofNat ('0'.toNat + (d - 26))

def digit? (c : Char) : Option Nat :=
  if 'a' ≤ c ∧ c ≤ 'z' then some (c.toNat - 'a'.toNat)
  else if 'A' ≤ c ∧ c ≤ 'Z' then some (c.toNat - 'A'.toNat)
  else if '0' ≤ c ∧ c ≤ '9' then some (c.toNat - '0'.toNat + 26)
  else none

/-- The weight below which the digit at `place`, which counts by 36, is the last one. -/
def threshold (bias place : Nat) : Nat :=
  if place ≤ bias then 1 else if bias + 26 ≤ place then 26 else place - bias

theorem threshold_pos (bias place : Nat) : 0 < threshold bias place := by
  unfold threshold; split
  · omega
  · split <;> omega

/-! ## Bias -/

/-- Scales a step down to 455 or less, and counts by 36 how often. -/
def scale (step place : Nat) : Nat × Nat :=
  if _h : 455 < step then scale (step / 35) (place + 36) else (step, place)
termination_by step

/-- The bias after a step: `count` characters are known by then. -/
def bias (step count : Nat) (first : Bool) : Nat :=
  let damped := if first then step / 700 else step / 2
  let (step, place) := scale (damped + damped / count) 0
  place + 36 * step / (step + 38)

/-! ## Writing -/

def writeStep (bias step : Nat) (place : Nat) : List Char :=
  let t := threshold bias place
  if _h : step < t then [digit step]
  else digit (t + (step - t) % (36 - t)) :: writeStep bias ((step - t) / (36 - t)) (place + 36)
termination_by step
decreasing_by
  have := threshold_pos bias place
  have := Nat.div_le_self (step - threshold bias place) (36 - threshold bias place)
  omega

/-- Where writing stands: the text so far, the step that has added up, the bias, and how many
characters are out. -/
structure Progress where
  text : List Char
  step : Nat
  bias : Nat
  count : Nat

/-- Passes one character of the label while the characters equal to `c` are written. -/
def passChar (plain : Nat) (c : Nat) (p : Progress) (d : Char) : Progress :=
  if d.toNat < c then { p with step := p.step + 1 }
  else if d.toNat = c then
    { text := p.text ++ writeStep p.bias p.step 36
      step := 0
      bias := bias p.step (p.count + 1) (p.count == plain)
      count := p.count + 1 }
  else p

/-- Writes the characters of the label that are in the ascending list; all below `next` are
written. -/
def writeChars (label : List Char) (plain : Nat) (next : Nat) (p : Progress) : List Nat → List Char
  | [] => p.text
  | c :: rest =>
    let reached := { p with step := p.step + (c - next) * (p.count + 1) }
    let passed := label.foldl (passChar plain c) reached
    writeChars label plain (c + 1) { passed with step := passed.step + 1 } rest

def encode (label : List Char) : List Char :=
  let ascii := label.filter fun c => c.toNat < 128
  let others := ((label.map Char.toNat).filter (128 ≤ ·)).mergeSort.eraseDups
  let text := if ascii.isEmpty then [] else ascii ++ ['-']
  writeChars label ascii.length 128 ⟨text, 0, 72, ascii.length⟩ others

/-! ## Reading -/

/-- Reads a step: each digit is worth `weight`, and the one below its threshold is the last. -/
def readStep? (bias place weight step : Nat) : List Char → Option (Nat × List Char)
  | [] => none
  | c :: rest => do
    let d ← digit? c
    let t := threshold bias place
    if d < t then some (step + d * weight, rest)
    else readStep? bias (place + 36) (weight * (36 - t)) (step + d * weight) rest

theorem length_of_readStep? {bias place weight step : Nat} {cs rest : List Char} {n : Nat}
    (h : readStep? bias place weight step cs = some (n, rest)) : rest.length < cs.length := by
  induction cs generalizing place weight step with
  | nil => simp [readStep?] at h
  | cons c cs ih =>
    simp only [readStep?, Option.bind_eq_bind, Option.bind_eq_some_iff] at h
    obtain ⟨d, -, h⟩ := h
    split at h
    · simp only [Option.some.injEq, Prod.mk.injEq] at h
      simp [← h.2]
    · exact Nat.lt_succ_of_lt (ih h)

/-- Puts the characters that the steps tell into the text so far. -/
def readChars? (text : List Char) (next position bias : Nat) (first : Bool) (cs : List Char) :
    Option (List Char) :=
  if cs.isEmpty then some text
  else
    match h : readStep? bias 36 1 0 cs with
    | none => none
    | some (step, rest) =>
      let slots := text.length + 1
      let c := next + (position + step) / slots
      let i := (position + step) % slots
      if c.isValidChar then
        readChars? (text.take i ++ Char.ofNat c :: text.drop i) c (i + 1)
          (Punycode.bias step slots first) false rest
      else none
termination_by cs.length
decreasing_by exact length_of_readStep? h

def decode? (cs : List Char) : Option (List Char) :=
  let (ascii, steps) := ((Text.cutLastChars? '-' cs).filter fun p => !p.1.isEmpty).getD ([], cs)
  if ascii.all fun c => c.toNat < 128 then readChars? ascii 128 0 72 true steps else none

end ServiceExposure.Url.Punycode
