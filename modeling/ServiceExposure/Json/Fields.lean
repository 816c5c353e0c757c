import ServiceExposure.Json

/-! # Reading values out of documents

A reader takes a document to a value, or refuses it. Records are read field by field: a field that
is missing or `null` is absent, and fields without a reader are passed over. -/

namespace ServiceExposure

/-- The number of 32 bits with that value, if there is one. -/
def int32OfInt? (n : Int) : Option Int32 :=
  if -0x80000000 ≤ n ∧ n ≤ 0x7fffffff then some (.ofInt n) else none

@[simp] theorem int32OfInt?_toInt (n : Int32) : int32OfInt? n.toInt = some n := by
  have low : -0x80000000 ≤ n.toInt := n.le_toInt
  have high : n.toInt ≤ 0x7fffffff := Int.le_of_lt_add_one n.toInt_lt
  simp [int32OfInt?, low, high]

/-- The number of 64 bits with that value, if there is one. -/
def int64OfInt? (n : Int) : Option Int64 :=
  if -0x8000000000000000 ≤ n ∧ n ≤ 0x7fffffffffffffff then some (.ofInt n) else none

@[simp] theorem int64OfInt?_toInt (n : Int64) : int64OfInt? n.toInt = some n := by
  have low : -0x8000000000000000 ≤ n.toInt := n.le_toInt
  have high : n.toInt ≤ 0x7fffffffffffffff := Int.le_of_lt_add_one n.toInt_lt
  simp [int64OfInt?, low, high]

namespace Json

abbrev Reader (α : Type) := Json → Option α

/-! ## Plain values -/

def string? : Reader String
  | .string s => some s
  | _ => none

def bool? : Reader Bool
  | .bool b => some b
  | _ => none

/-- An integer of a closed range. -/
def intWithin? (low high : Int) : Reader Int
  | .int n => if low ≤ n ∧ n ≤ high then some n else none
  | _ => none

def int32? : Reader Int32
  | .int n => int32OfInt? n
  | _ => none

def int64? : Reader Int64
  | .int n => int64OfInt? n
  | _ => none

def uint16? : Reader Int := intWithin? 0 0xffff

def list? (read : Reader α) : Reader (List α)
  | .array items => items.mapM read
  | _ => none

/-- An object as a dictionary of values of one kind. -/
def dict? (read : Reader α) : Reader (Dict String α)
  | .object members => (members.mapM fun m => (read m.2).map (m.1, ·)).map Dict.ofList
  | _ => none

def isObject : Json → Bool
  | .object _ => true
  | _ => false

/-! ## Fields -/

def optional? (read : Reader α) (key : String) (j : Json) : Option (Option α) :=
  match j.present? key with
  | none => some none
  | some value => (read value).map some

def withDefault? (read : Reader α) (default : α) (key : String) (j : Json) : Option α :=
  (optional? read key j).map (·.getD default)

def required? (read : Reader α) (key : String) (j : Json) : Option α :=
  (j.member? key).bind read

/-- Whether a field is missing or holds just this text. -/
def absentOr (text key : String) (j : Json) : Bool :=
  match j.member? key with
  | none => true
  | some value => value = .string text

/-! ## Records -/

/-- The fields of a record by position or by name: `fields` lists their names, of which the first
`needed` must be there. A field that is left out is `null`. -/
def recordFields? (fields : List String) (needed : Nat) : Json → Option (List Json)
  | .array items =>
    if needed ≤ items.length ∧ items.length ≤ fields.length then
      some (items ++ List.replicate (fields.length - items.length) .null)
    else none
  | .object members => some (fields.map fun key => (Entries.get? key members).getD .null)
  | _ => none

/-- A value that `null` leaves absent. -/
def orNull? (read : Reader α) : Reader (Option α)
  | .null => some none
  | j => (read j).map some

/-! ## Writing -/

def ofList (write : α → Json) (items : List α) : Json := .array (items.map write)

def ofDict (write : α → Json) (d : Dict String α) : Json :=
  .object (d.toList.map fun e => (e.1, write e.2))

end Json

end ServiceExposure
