/-! # Cutting text

Text is cut at separators, and pieces at its ends are taken off. -/

namespace ServiceExposure.Text

/-! ## At the first separator -/

/-- What stands before and after the first occurrence of `sep`. -/
def cutChars? (sep : List Char) : List Char → Option (List Char × List Char)
  | [] => if sep.isEmpty then some ([], []) else none
  | c :: rest =>
    if sep.isPrefixOf (c :: rest) then some ([], (c :: rest).drop sep.length)
    else (cutChars? sep rest).map fun p => (c :: p.1, p.2)

theorem eq_append_of_cutChars? {sep cs before after : List Char}
    (h : cutChars? sep cs = some (before, after)) :
    cs = before ++ sep ++ after := by
  induction cs generalizing before with
  | nil =>
    simp only [cutChars?] at h
    split at h
    · next he => simp_all
    · simp at h
  | cons c rest ih =>
    simp only [cutChars?] at h
    split at h
    · next hp =>
      obtain ⟨t, ht⟩ := List.isPrefixOf_iff_prefix.1 hp
      simp only [Option.some.injEq, Prod.mk.injEq] at h
      simp [← h.1, ← h.2, ← ht]
    · obtain ⟨p, hp, hq⟩ := Option.map_eq_some_iff.1 h
      simp only [Prod.mk.injEq] at hq
      rw [ih (show cutChars? sep rest = some (p.1, after) by rw [hp, ← hq.2]), ← hq.1]
      simp

def cut? (sep s : String) : Option (String × String) :=
  (cutChars? sep.toList s.toList).map fun p => (.ofList p.1, .ofList p.2)

theorem eq_append_of_cut? {sep s before after : String} (h : cut? sep s = some (before, after)) :
    s = before ++ sep ++ after := by
  obtain ⟨p, hp, hq⟩ := Option.map_eq_some_iff.1 h
  simp only [Prod.mk.injEq] at hq
  apply String.toList_inj.1
  rw [eq_append_of_cutChars? hp, ← hq.1, ← hq.2]
  simp [String.toList_append]

/-! ## At the last separator -/

/-- What stands before and after the last `sep`. -/
def cutLastChars? (sep : Char) : List Char → Option (List Char × List Char)
  | [] => none
  | c :: rest =>
    match cutLastChars? sep rest with
    | some (before, after) => some (c :: before, after)
    | none => if c = sep then some ([], rest) else none

/-! ## At every separator -/

/-- The pieces between separators; text without one is a single piece. -/
def splitChars (sep : Char) : List Char → List (List Char)
  | [] => [[]]
  | c :: rest =>
    if c = sep then [] :: splitChars sep rest
    else
      match splitChars sep rest with
      | [] => [[c]]
      | piece :: pieces => (c :: piece) :: pieces

theorem splitChars_ne_nil (sep : Char) (cs : List Char) : splitChars sep cs ≠ [] := by
  cases cs with
  | nil => simp [splitChars]
  | cons c rest => unfold splitChars; split <;> (try split) <;> simp

def split (sep : Char) (s : String) : List String :=
  (splitChars sep s.toList).map .ofList

/-- The lines of a text: a line feed ends a line and takes a carriage return before it along; what
follows the last line feed is a line unless it is empty. -/
def lines (s : String) : List String :=
  let pieces := splitChars '\n' s.toList
  let full := pieces.dropLast.map fun p => if p.getLast? = some '\r' then p.dropLast else p
  let tail := pieces.getLast?.toList.filter fun p => !p.isEmpty
  (full ++ tail).map .ofList

/-! ## At the ends -/

/-- The rest of `cs` after `start`. -/
def afterChars? : (start cs : List Char) → Option (List Char)
  | [], cs => some cs
  | _ :: _, [] => none
  | a :: start, c :: cs => if a = c then afterChars? start cs else none

theorem afterChars?_eq_some_iff {start cs rest : List Char} :
    afterChars? start cs = some rest ↔ cs = start ++ rest := by
  induction start generalizing cs with
  | nil => simp [afterChars?, eq_comm]
  | cons a start ih =>
    cases cs with
    | nil => simp [afterChars?]
    | cons c cs =>
      by_cases h : a = c
      · simp [afterChars?, h, ih]
      · simp [afterChars?, h, Ne.symm h]

def after? (start s : String) : Option String :=
  (afterChars? start.toList s.toList).map .ofList

theorem after?_eq_some_iff {start s rest : String} :
    after? start s = some rest ↔ s = start ++ rest := by
  constructor
  · intro h
    obtain ⟨cs, hcs, rfl⟩ := Option.map_eq_some_iff.1 h
    apply String.toList_inj.1
    simpa [String.toList_append] using afterChars?_eq_some_iff.1 hcs
  · rintro rfl
    simp [after?, String.toList_append, afterChars?_eq_some_iff.2 rfl]

/-- The text without one `c` at its end, if there is one. -/
def withoutLast (c : Char) (s : String) : String :=
  if s.toList.getLast? = some c then .ofList s.toList.dropLast else s

/-- The text without one `c` at its start, if there is one. -/
def withoutFirst (c : Char) (s : String) : String :=
  if s.toList.head? = some c then .ofList s.toList.tail else s

def startsWith (start s : String) : Bool := start.toList.isPrefixOf s.toList

def endsWith (ending s : String) : Bool := ending.toList.isSuffixOf s.toList

/-! ## Case -/

/-- Lower case for the letters A to Z; other characters stay. -/
def lowerAscii (s : String) : String := .ofList (s.toList.map Char.toLower)

/-- Whether two texts differ at most in the case of the letters A to Z. -/
def sameIgnoringCase (a b : String) : Bool := lowerAscii a == lowerAscii b

end ServiceExposure.Text

/-- A present text that is not empty. -/
def ServiceExposure.nonEmpty? (text : Option String) : Option String := text.filter (· ≠ "")
