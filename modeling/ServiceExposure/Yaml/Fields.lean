import ServiceExposure.Yaml.Node

/-! # Typed values of YAML

What a node means follows from the type that is wanted, not from its text alone: every scalar is a
string where a string is wanted. -/

namespace ServiceExposure.Yaml

namespace Document

/-- The node that an alias refers to. Of two nodes with one number the later one counts. -/
def resolve (d : Document) (n : Node) : Option Node :=
  match n with
  | .alias number => (d.named.reverse.lookup number)
  | n => some n

def isNull (text : String) : Bool := text = "~" || text = "null" || text = "Null" || text = "NULL"

/-! ## Scalars -/

def string? (d : Document) (n : Node) : Option String := do
  match ← d.resolve n with
  | .scalar _ _ text => some text
  | _ => none

/-- A string that may be missing. A scalar with the tag of null has to be null. -/
def optionalString? (d : Document) (n : Node) : Option (Option String) := do
  match ← d.resolve n with
  | .scalar none .plain text => some (if text.isEmpty || isNull text then none else some text)
  | .scalar (some tag) .plain text =>
    if tag = "tag:yaml.org,2002:null" then
      if isNull text then some none else none
    else some (some text)
  | .scalar _ _ text => some (some text)
  | _ => none

def boolOf? (text : String) : Option Bool :=
  match text with
  | "true" | "True" | "TRUE" => some true
  | "false" | "False" | "FALSE" => some false
  | _ => none

/-- A plain scalar, or a literal one with the tag of truth values. -/
def bool? (d : Document) (n : Node) : Option Bool := do
  match ← d.resolve n with
  | .scalar _ .plain text => boolOf? text
  | .scalar (some "tag:yaml.org,2002:bool") .literal text => boolOf? text
  | _ => none

/-! ## Collections -/

/-- A sequence; nothing at all is an empty one. -/
def list? {α : Type} (d : Document) (item? : Node → Option α) (n : Node) : Option (List α) := do
  match ← d.resolve n with
  | .sequence items => items.mapM item?
  | .scalar _ .plain "" => some []
  | _ => none

/-- A mapping whose keys are scalars; nothing at all is an empty one. -/
def members? (d : Document) (n : Node) : Option (List (String × Node)) := do
  match ← d.resolve n with
  | .mapping members => members.mapM fun (key, value) => do return (← d.string? key, value)
  | .scalar _ .plain "" => some []
  | _ => none

/-- The value of a known key, which may stand once. -/
def field {α : Type} (members : List (String × Node)) (key : String) (value? : Node → Option α)
    (absent : α) :
    Option α :=
  match members.filter (·.1 = key) with
  | [] => some absent
  | [(_, value)] => value? value
  | _ => none

/-- The root; a text without a document is like one with nothing in it. -/
def content (d : Document) : Node := d.root.getD .missing

end Document

end ServiceExposure.Yaml
