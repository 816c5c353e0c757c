import Mathlib.Control.Basic
import ServiceExposure.Kube.Service
import ServiceExposure.Proofs.MergePatch

/-! # Objects as documents

Each kind of value is written by one function and read by another. `Encodes` says that the two
belong together: what is written reads back, and it is a plain document, without doubles and without
`null`. Records get theirs field by field; at the end stand services. -/

namespace ServiceExposure

namespace Json

/-! ## Plain documents -/

/-- A document in the form that objects are written in. -/
structure Plain (j : Json) : Prop where
  canonical : j.Canonical
  integral : j.Integral
  nullFree : j.NullFree
  not_null : j ≠ .null

theorem plain_string (s : String) : Plain (.string s) := by
  constructor <;> simp [Canonical, Integral, NullFree]

theorem plain_int (n : Int) : Plain (.int n) := by
  constructor <;> simp [Canonical, Integral, NullFree]

theorem plain_array {items : List Json} (h : ∀ j ∈ items, Plain j) : Plain (.array items) where
  canonical := canonical_array.2 fun j hj => (h j hj).canonical
  integral := integral_array.2 fun j hj => (h j hj).integral
  nullFree := by simp [NullFree]
  not_null := by simp

theorem plain_object {members : Members} (hasc : Entries.Ascending members)
    (h : ∀ m ∈ members, Plain m.2) :
    Plain (.object members) where
  canonical := canonical_object.2 ⟨hasc, fun m hm => (h m hm).canonical⟩
  integral := integral_object.2 fun m hm => (h m hm).integral
  nullFree := nullFree_object.2 fun m hm => ⟨(h m hm).not_null, (h m hm).nullFree⟩
  not_null := by simp

/-! ## Records -/

/-- The value of a field that may be absent. -/
def field? (key : String) (fields : List (String × Option Json)) : Option Json :=
  (Entries.get? key fields).join

theorem ofMembers_eq (members : Members) :
    ofMembers members = .object (members.foldl (fun ms m => Entries.insert m.1 m.2 ms) []) := rfl

theorem member?_ofMembers {members : Members} (h : (members.map (·.1)).Nodup) (key : String) :
    (ofMembers members).member? key = Entries.get? key members := by
  rw [ofMembers_eq, member?, Json.members, Entries.get?_foldl_insert, Entries.get?_reverse h]
  simp

theorem get?_present (key : String) {fields : List (String × Option Json)}
    (h : (fields.map (·.1)).Nodup) :
    Entries.get? key (fields.filterMap fun m => m.2.map (m.1, ·)) = field? key fields := by
  induction fields with
  | nil => rfl
  | cons f fields ih =>
    obtain ⟨k, value⟩ := f
    obtain ⟨hhead, htail⟩ := List.nodup_cons.1 h
    have hrest := ih htail
    cases value with
    | some value =>
      by_cases hk : k = key
      · simp [field?, Entries.get?_cons, hk]
      · simpa [field?, Entries.get?_cons, hk] using hrest
    -- an absent field is not written, and no other field has its key
    | none =>
      by_cases hk : k = key
      · have hnone : Entries.get? key fields = none :=
          Entries.get?_eq_none_of_forall_ne fun d hd he =>
            hhead (List.mem_map.2 ⟨d, hd, he.trans hk.symm⟩)
        simpa [field?, Entries.get?_cons, hk, hnone] using hrest
      · simpa [field?, Entries.get?_cons, hk] using hrest

theorem nodup_present {fields : List (String × Option Json)} (h : (fields.map (·.1)).Nodup) :
    ((fields.filterMap fun m => m.2.map (m.1, ·)).map (·.1)).Nodup := by
  have hsub :
      ((fields.filterMap fun m => m.2.map (m.1, ·)).map (·.1)).Sublist (fields.map (·.1)) := by
    induction fields with
    | nil => simp
    | cons f fields ih =>
      obtain ⟨k, value⟩ := f
      have hrest := ih (List.nodup_cons.1 h).2
      cases value with
      | none => simpa using hrest.cons k
      | some value => simpa using hrest.cons_cons k
  exact hsub.nodup h

theorem member?_ofPresent {fields : List (String × Option Json)} (h : (fields.map (·.1)).Nodup)
    (key : String) :
    (ofPresent fields).member? key = field? key fields := by
  rw [ofPresent, member?_ofMembers (nodup_present h), get?_present key h]

theorem ascending_ofMembers (members : Members) :
    Entries.Ascending (ofMembers members).members := by
  rw [ofMembers_eq, Json.members]
  exact Entries.ascending_nil.foldl_insert members

theorem mem_ofMembers {members : Members} {m : String × Json}
    (h : m ∈ (ofMembers members).members) : m ∈ members := by
  rw [ofMembers_eq, Json.members] at h
  simpa using Entries.mem_foldl_insert h

theorem plain_ofMembers {members : Members} (h : ∀ m ∈ members, Plain m.2) :
    Plain (ofMembers members) :=
  plain_object (ascending_ofMembers members) fun m hm => h m (mem_ofMembers hm)

theorem plain_ofPresent {fields : List (String × Option Json)}
    (h : ∀ f ∈ fields, ∀ j, f.2 = some j → Plain j) :
    Plain (ofPresent fields) := by
  refine plain_ofMembers fun m hm => ?_
  obtain ⟨f, hf, hmap⟩ := List.mem_filterMap.1 hm
  obtain ⟨j, hj, rfl⟩ := Option.map_eq_some_iff.1 hmap
  exact h f hf j hj

@[simp] theorem isObject_ofPresent (fields : List (String × Option Json)) :
    (ofPresent fields).isObject = true := rfl

/-! ## Writing and reading -/

/-- What is written is plain and reads back. -/
structure Encodes (write : α → Json) (read : Reader α) : Prop where
  reads : ∀ a, read (write a) = some a
  plain : ∀ a, Plain (write a)

namespace Encodes

variable {α β : Type} {write : α → Json} {read : Reader α}

theorem string : Encodes Json.string string? where
  reads _ := rfl
  plain := plain_string

theorem int32 : Encodes (fun n : Int32 => .int n.toInt) int32? where
  reads := int32OfInt?_toInt
  plain n := plain_int n.toInt

theorem int64 : Encodes (fun n : Int64 => .int n.toInt) int64? where
  reads := int64OfInt?_toInt
  plain n := plain_int n.toInt

theorem list (h : Encodes write read) : Encodes (ofList write) (list? read) where
  reads items := by
    simp only [ofList, list?]
    induction items with
    | nil => rfl
    | cons a items ih => simp [h.reads, ih]
  plain items := plain_array fun j hj => by
    obtain ⟨a, -, rfl⟩ := List.mem_map.1 hj
    exact h.plain a

theorem dict (h : Encodes write read) : Encodes (ofDict write) (dict? read) where
  reads d := by
    have hall : ∀ entries : List (String × α),
        ((entries.map fun e => (e.1, write e.2)).mapM fun m => (read m.2).map (m.1, ·)) =
          some entries := by
      intro entries
      induction entries with
      | nil => rfl
      | cons e entries ih => simp [h.reads, ih]
    simp only [ofDict, dict?, hall, Option.map_some, Dict.ofList_toList]
  plain d := plain_object (d.ascending.map fun _ => write) fun m hm => by
    obtain ⟨e, -, rfl⟩ := List.mem_map.1 hm
    exact h.plain e.2

theorem stringDict : Encodes ofStringDict stringDict? := string.dict

/-! ## Fields -/

theorem plain_map (h : Encodes write read) (value : Option α) :
    ∀ j, value.map write = some j → Plain j := by
  intro j hj
  obtain ⟨a, -, rfl⟩ := Option.map_eq_some_iff.1 hj
  exact h.plain a

/-- A field that was written if present reads back present or absent. -/
theorem optional (h : Encodes write read) {j : Json} {key : String} {value : Option α}
    (hmem : j.member? key = value.map write) : optional? read key j = some value := by
  cases value with
  | none => simp [optional?, present?, hmem]
  | some a =>
    have hpresent : j.present? key = some (write a) := by
      have hne := (h.plain a).not_null
      rw [present?, hmem, Option.map_some]
      cases hw : write a <;> simp_all
    simp [optional?, hpresent, h.reads]

theorem withDefault (h : Encodes write read) {j : Json} {key : String} {value default : α}
    (hmem : j.member? key = some (write value)) : withDefault? read default key j = some value := by
  have hoptional : optional? read key j = some (some value) := h.optional hmem
  rw [withDefault?, hoptional]
  rfl

end Encodes

end Json

/-! ## Records of services -/

open Json (Encodes)

namespace OwnerReference

theorem encodes : Encodes OwnerReference.toJson OwnerReference.ofJson? where
  reads o := by
    have field (key : String) : o.toJson.member? key = Entries.get? key _ :=
      Json.member?_ofMembers (by simp) key
    have hobject : o.toJson.isObject = true := rfl
    simp [ofJson?, guard, hobject, Encodes.string.withDefault (field "apiVersion"),
      Encodes.string.withDefault (field "kind"), Encodes.string.withDefault (field "name"),
      Encodes.string.withDefault (field "uid")]
  plain o := Json.plain_ofMembers fun m hm => by
    simp only [List.mem_cons, List.not_mem_nil, or_false] at hm
    rcases hm with rfl | rfl | rfl | rfl <;> exact Json.plain_string _

end OwnerReference

namespace Metadata

theorem encodes : Encodes Metadata.toJson Metadata.ofJson? where
  reads m := by
    have field (key : String) : m.toJson.member? key = Json.field? key _ :=
      Json.member?_ofPresent (by simp) key
    have hobject : m.toJson.isObject = true := rfl
    simp [ofJson?, guard, hobject, Encodes.string.optional (field "name"),
      Encodes.string.optional (field "generateName"), Encodes.string.optional (field "namespace"),
      Encodes.string.optional (field "uid"), Encodes.stringDict.optional (field "labels"),
      Encodes.stringDict.optional (field "annotations"),
      Encodes.string.optional (field "resourceVersion"),
      OwnerReference.encodes.list.optional (field "ownerReferences"),
      Encodes.int64.optional (field "generation")]
  plain m := Json.plain_ofPresent fun f hf => by
    simp only [List.mem_cons, List.not_mem_nil, or_false] at hf
    rcases hf with rfl | rfl | rfl | rfl | rfl | rfl | rfl | rfl | rfl
    all_goals first
      | exact Encodes.string.plain_map _
      | exact Encodes.stringDict.plain_map _
      | exact OwnerReference.encodes.list.plain_map _
      | exact Encodes.int64.plain_map _

end Metadata

namespace PortReference

theorem encodes : Encodes PortReference.toJson PortReference.ofJson? where
  reads p := by
    cases p with
    | number n => simp [toJson, ofJson?, Json.int32?]
    | name s => rfl
  plain p := by
    cases p with
    | number n => exact Json.plain_int n.toInt
    | name s => exact Json.plain_string s

end PortReference

namespace ServicePort

theorem encodes : Encodes ServicePort.toJson ServicePort.ofJson? where
  reads p := by
    have field (key : String) : p.toJson.member? key = Json.field? key _ :=
      Json.member?_ofPresent (by simp) key
    have hobject : p.toJson.isObject = true := rfl
    simp [ofJson?, guard, hobject, Encodes.string.optional (field "name"),
      Encodes.int32.withDefault (field "port"), Encodes.int32.optional (field "nodePort"),
      PortReference.encodes.optional (field "targetPort"),
      Encodes.string.optional (field "protocol")]
  plain p := Json.plain_ofPresent fun f hf => by
    simp only [List.mem_cons, List.not_mem_nil, or_false] at hf
    rcases hf with rfl | rfl | rfl | rfl | rfl
    all_goals first
      | exact Encodes.string.plain_map _
      | exact Encodes.int32.plain_map (some p.port)
      | exact Encodes.int32.plain_map _
      | exact PortReference.encodes.plain_map _

end ServicePort

namespace ServiceSpec

theorem encodes : Encodes ServiceSpec.toJson ServiceSpec.ofJson? where
  reads s := by
    have field (key : String) : s.toJson.member? key = Json.field? key _ :=
      Json.member?_ofPresent (by simp) key
    have hobject : s.toJson.isObject = true := rfl
    simp [ofJson?, guard, hobject, ServicePort.encodes.list.optional (field "ports"),
      Encodes.string.optional (field "clusterIP"), Encodes.string.optional (field "type"),
      Encodes.string.list.optional (field "externalIPs"),
      Encodes.string.optional (field "loadBalancerIP")]
  plain s := Json.plain_ofPresent fun f hf => by
    simp only [List.mem_cons, List.not_mem_nil, or_false] at hf
    rcases hf with rfl | rfl | rfl | rfl | rfl
    all_goals first
      | exact ServicePort.encodes.list.plain_map _
      | exact Encodes.string.list.plain_map _
      | exact Encodes.string.plain_map _

end ServiceSpec

namespace Service

theorem encodes : Encodes Service.toJson Service.ofJson? where
  reads s := by
    have field (key : String) : s.toJson.member? key = Json.field? key _ :=
      Json.member?_ofPresent (by simp [Resource.heading]) key
    have hchecked : Resource.checked "Service" "v1" s.toJson = some () := by
      have hversion : s.toJson.member? "apiVersion" = some (.string "v1") := field "apiVersion"
      have hkind : s.toJson.member? "kind" = some (.string "Service") := field "kind"
      have hobject : s.toJson.isObject = true := rfl
      simp [Resource.checked, Json.absentOr, guard, hobject, hversion, hkind]
    simp [ofJson?, hchecked, Metadata.encodes.withDefault (field "metadata"),
      ServiceSpec.encodes.optional (field "spec")]
  plain s := Json.plain_ofPresent fun f hf => by
    simp only [Resource.heading, List.cons_append, List.nil_append, List.mem_cons, List.not_mem_nil,
      or_false] at hf
    rcases hf with rfl | rfl | rfl | rfl
    all_goals first
      | exact Encodes.string.plain_map (some _)
      | exact Metadata.encodes.plain_map (some s.metadata)
      | exact ServiceSpec.encodes.plain_map _

end Service

end ServiceExposure
