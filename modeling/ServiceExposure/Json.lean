import ServiceExposure.Binary64
import ServiceExposure.Dict

/-! # JSON documents

Integers and double precision numbers are different documents, also where they have the same value.
The members of an object stand in ascending key order (`Json.Canonical`), so documents that differ
only in the order of members are equal. -/

namespace ServiceExposure

inductive Json where
  | null
  | bool (b : Bool)
  | int (n : Int)
  | float (x : Binary64)
  | string (s : String)
  | array (items : List Json)
  | object (members : List (String × Json))
deriving Repr, Inhabited

namespace Json

abbrev Members := List (String × Json)

/-- An object from members in any order; a later member replaces an earlier one of the same key. -/
def ofMembers (members : Members) : Json :=
  .object (members.foldl (fun ms m => Entries.insert m.1 m.2 ms) [])

/-- An object from members that may be absent. -/
def ofPresent (members : List (String × Option Json)) : Json :=
  ofMembers (members.filterMap fun m => m.2.map (m.1, ·))

def ofStrings (items : List String) : Json := .array (items.map .string)

/-- The members of an object; other documents have none. -/
def members : Json → Members
  | .object ms => ms
  | _ => []

def member? (j : Json) (key : String) : Option Json := Entries.get? key j.members

/-- A present member, where `null` counts as absent. -/
def present? (j : Json) (key : String) : Option Json :=
  match j.member? key with
  | some .null => none
  | other => other

/-! ## Equality -/

mutual

def decEq : (a b : Json) → Decidable (a = b)
  | .null, .null => isTrue rfl
  | .bool a, .bool b => if h : a = b then isTrue (h ▸ rfl) else isFalse (by simp [h])
  | .int a, .int b => if h : a = b then isTrue (h ▸ rfl) else isFalse (by simp [h])
  | .float a, .float b => if h : a = b then isTrue (h ▸ rfl) else isFalse (by simp [h])
  | .string a, .string b => if h : a = b then isTrue (h ▸ rfl) else isFalse (by simp [h])
  | .array as, .array bs =>
    match decEqItems as bs with
    | isTrue h => isTrue (h ▸ rfl)
    | isFalse h => isFalse (by simp [h])
  | .object as, .object bs =>
    match decEqMembers as bs with
    | isTrue h => isTrue (h ▸ rfl)
    | isFalse h => isFalse (by simp [h])
  | .null, .bool _ | .null, .int _ | .null, .float _ | .null, .string _ | .null, .array _
  | .null, .object _ | .bool _, .null | .bool _, .int _ | .bool _, .float _ | .bool _, .string _
  | .bool _, .array _ | .bool _, .object _ | .int _, .null | .int _, .bool _ | .int _, .float _
  | .int _, .string _ | .int _, .array _ | .int _, .object _ | .float _, .null | .float _, .bool _
  | .float _, .int _ | .float _, .string _ | .float _, .array _ | .float _, .object _
  | .string _, .null | .string _, .bool _ | .string _, .int _ | .string _, .float _
  | .string _, .array _ | .string _, .object _ | .array _, .null | .array _, .bool _
  | .array _, .int _ | .array _, .float _ | .array _, .string _ | .array _, .object _
  | .object _, .null | .object _, .bool _ | .object _, .int _ | .object _, .float _
  | .object _, .string _ | .object _, .array _ => isFalse (by simp)
termination_by structural a => a

def decEqItems : (as bs : List Json) → Decidable (as = bs)
  | [], [] => isTrue rfl
  | a :: as, b :: bs =>
    match decEq a b, decEqItems as bs with
    | isTrue h, isTrue h' => isTrue (h ▸ h' ▸ rfl)
    | isFalse h, _ => isFalse (by simp [h])
    | _, isFalse h => isFalse (by simp [h])
  | [], _ :: _ | _ :: _, [] => isFalse (by simp)
termination_by structural as => as

def decEqMembers : (as bs : List (String × Json)) → Decidable (as = bs)
  | [], [] => isTrue rfl
  | a :: as, b :: bs =>
    match decEqMember a b, decEqMembers as bs with
    | isTrue h, isTrue h' => isTrue (h ▸ h' ▸ rfl)
    | isFalse h, _ => isFalse (by simp [h])
    | _, isFalse h => isFalse (by simp [h])
  | [], _ :: _ | _ :: _, [] => isFalse (by simp)
termination_by structural as => as

def decEqMember : (a b : String × Json) → Decidable (a = b)
  | (k, a), (l, b) =>
    if h : k = l then
      match decEq a b with
      | isTrue h' => isTrue (h ▸ h' ▸ rfl)
      | isFalse h' => isFalse (by simp [h'])
    else isFalse (by simp [h])
termination_by structural a => a

end

instance : DecidableEq Json := decEq

mutual

/-- Equality up to the sign of zero. -/
def agrees : Json → Json → Bool
  | .null, .null => true
  | .bool a, .bool b => a == b
  | .int a, .int b => a == b
  | .float a, .float b => a.agrees b
  | .string a, .string b => a == b
  | .array as, .array bs => agreesItems as bs
  | .object as, .object bs => agreesMembers as bs
  | _, _ => false
termination_by structural a => a

def agreesItems : List Json → List Json → Bool
  | [], [] => true
  | a :: as, b :: bs => agrees a b && agreesItems as bs
  | _, _ => false
termination_by structural as => as

def agreesMembers : List (String × Json) → List (String × Json) → Bool
  | [], [] => true
  | a :: as, b :: bs => agreesMember a b && agreesMembers as bs
  | _, _ => false
termination_by structural as => as

def agreesMember : String × Json → String × Json → Bool
  | (k, a), (l, b) => k == l && agrees a b
termination_by structural a => a

end

/-! ## Canonical documents -/

mutual

/-- Every object in the document lists its members in ascending key order, each key once. -/
def Canonical : Json → Prop
  | .array items => CanonicalItems items
  | .object members => Entries.Ascending members ∧ CanonicalMembers members
  | .null | .bool _ | .int _ | .float _ | .string _ => True
termination_by structural a => a

def CanonicalItems : List Json → Prop
  | [] => True
  | item :: items => Canonical item ∧ CanonicalItems items
termination_by structural items => items

def CanonicalMembers : List (String × Json) → Prop
  | [] => True
  | m :: ms => CanonicalMember m ∧ CanonicalMembers ms
termination_by structural ms => ms

def CanonicalMember : String × Json → Prop
  | (_, j) => Canonical j
termination_by structural m => m

end

/-- A document in which every object lists its members in order. -/
@[ext] structure Document where
  json : Json
  canonical : json.Canonical

instance : Coe Document Json := ⟨Document.json⟩

end Json

end ServiceExposure
