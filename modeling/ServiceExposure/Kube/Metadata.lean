import ServiceExposure.Json.Fields
import ServiceExposure.Text.Cut

/-! # Object metadata

What every cluster object carries: its name, its labels and annotations, and its owners. An absent
field is not the same as an empty one.

Objects are described here by the fields that exposing a service reads, changes or sets, as version
1.33 of the cluster's API has them. Each module of objects names the fields of the API that it
leaves out. Nothing reads or changes these: an object that is written back keeps them as they were,
and a patch does not name them.

Left out of metadata are `creationTimestamp`, `deletionGracePeriodSeconds`, `deletionTimestamp`,
`finalizers`, `managedFields` and `selfLink`, and of the reference to an owner
`blockOwnerDeletion` and `controller`. -/

namespace ServiceExposure

abbrev StringDict := Dict String String

namespace Json

def stringDict? : Reader StringDict := dict? string?

def ofStringDict (d : StringDict) : Json := ofDict .string d

end Json

/-- Names an object within a cluster. -/
structure ObjectKey where
  inNamespace : String
  name : String
deriving DecidableEq, Repr

namespace ObjectKey

/-- As in messages: namespace, slash, name. -/
def text (key : ObjectKey) : String := key.inNamespace ++ "/" ++ key.name

theorem ext_iff' {a b : ObjectKey} : a = b ↔ a.inNamespace = b.inNamespace ∧ a.name = b.name := by
  cases a; cases b; simp

end ObjectKey

/-- By namespace, then by name. -/
instance : KeyOrder ObjectKey where
  before a b :=
    KeyOrder.before a.inNamespace b.inNamespace ||
      (a.inNamespace == b.inNamespace && KeyOrder.before a.name b.name)
  before_irrefl a := by simp [KeyOrder.before_irrefl]
  before_trans {a b c} h₁ h₂ := by
    simp only [Bool.or_eq_true, Bool.and_eq_true, beq_iff_eq] at h₁ h₂ ⊢
    rcases h₁ with h₁ | ⟨e₁, h₁⟩ <;> rcases h₂ with h₂ | ⟨e₂, h₂⟩
    · exact .inl (KeyOrder.before_trans h₁ h₂)
    · exact .inl (e₂ ▸ h₁)
    · exact .inl (e₁ ▸ h₂)
    · exact .inr ⟨e₁.trans e₂, KeyOrder.before_trans h₁ h₂⟩
  before_connex {a b} h₁ h₂ := by
    simp only [Bool.or_eq_false_iff, Bool.and_eq_false_iff, beq_eq_false_iff_ne] at h₁ h₂
    have hn : a.inNamespace = b.inNamespace := KeyOrder.before_connex h₁.1 h₂.1
    refine ObjectKey.ext_iff'.2 ⟨hn, KeyOrder.before_connex ?_ ?_⟩
    · exact h₁.2.resolve_left (by simp [hn])
    · exact h₂.2.resolve_left (by simp [hn])

/-! ## Owners -/

structure OwnerReference where
  apiVersion : String
  kind : String
  name : String
  uid : String
deriving DecidableEq, Repr

namespace OwnerReference

def toJson (o : OwnerReference) : Json :=
  .ofMembers [("apiVersion", .string o.apiVersion), ("kind", .string o.kind),
    ("name", .string o.name), ("uid", .string o.uid)]

def ofJson? (j : Json) : Option OwnerReference := do
  guard j.isObject
  return {
    apiVersion := ← j.withDefault? Json.string? "" "apiVersion"
    kind := ← j.withDefault? Json.string? "" "kind"
    name := ← j.withDefault? Json.string? "" "name"
    uid := ← j.withDefault? Json.string? "" "uid" }

end OwnerReference

/-! ## Metadata -/

structure Metadata where
  name : Option String := none
  generateName : Option String := none
  inNamespace : Option String := none
  uid : Option String := none
  labels : Option StringDict := none
  annotations : Option StringDict := none
  resourceVersion : Option String := none
  ownerReferences : Option (List OwnerReference) := none
  generation : Option Int64 := none
deriving DecidableEq, Repr, Inhabited

namespace Metadata

def toJson (m : Metadata) : Json :=
  .ofPresent [
    ("name", m.name.map .string),
    ("generateName", m.generateName.map .string),
    ("namespace", m.inNamespace.map .string),
    ("uid", m.uid.map .string),
    ("labels", m.labels.map .ofStringDict),
    ("annotations", m.annotations.map .ofStringDict),
    ("resourceVersion", m.resourceVersion.map .string),
    ("ownerReferences", m.ownerReferences.map (.ofList OwnerReference.toJson)),
    ("generation", m.generation.map fun n => .int n.toInt)]

def ofJson? (j : Json) : Option Metadata := do
  guard j.isObject
  return {
    name := ← j.optional? Json.string? "name"
    generateName := ← j.optional? Json.string? "generateName"
    inNamespace := ← j.optional? Json.string? "namespace"
    uid := ← j.optional? Json.string? "uid"
    labels := ← j.optional? Json.stringDict? "labels"
    annotations := ← j.optional? Json.stringDict? "annotations"
    resourceVersion := ← j.optional? Json.string? "resourceVersion"
    ownerReferences := ← j.optional? (Json.list? OwnerReference.ofJson?) "ownerReferences"
    generation := ← j.optional? Json.int64? "generation" }

/-- The name, or for an object that is yet to get one, the start of it. -/
def displayName (m : Metadata) : String := (m.name <|> m.generateName).getD ""

def key (m : Metadata) : ObjectKey := ⟨m.inNamespace.getD "", m.displayName⟩

def annotation? (m : Metadata) (key : String) : Option String := m.annotations.bind (·.get? key)

def label? (m : Metadata) (key : String) : Option String := m.labels.bind (·.get? key)

end Metadata

/-! ## Kinds of objects -/

/-- A kind of object that the cluster stores. -/
class Resource (α : Type) where
  kind : String
  apiVersion : String
  /-- The collection of such objects in the cluster's API. -/
  plural : String
  metadata : α → Metadata
  toJson : α → Json
  ofJson? : Json → Option α

namespace Resource

/-- Reads the kind and version of an object, which may be missing but not be wrong. -/
def checked (kind apiVersion : String) (j : Json) : Option Unit :=
  guard (j.isObject && j.absentOr apiVersion "apiVersion" && j.absentOr kind "kind")

/-- The fields that every object starts with. -/
def heading (kind apiVersion : String) (m : Metadata) : List (String × Option Json) :=
  [("apiVersion", some (.string apiVersion)), ("kind", some (.string kind)),
    ("metadata", some m.toJson)]

variable {α : Type} [Resource α]

def displayName (object : α) : String := (metadata object).displayName

def key (object : α) : ObjectKey := (metadata object).key

/-- Objects by name; a later one replaces an earlier one of the same name. -/
def byName (objects : List α) : Dict String α := .ofList (objects.map fun o => (displayName o, o))

end Resource

end ServiceExposure
