import ServiceExposure.Strategy.Routing
import ServiceExposure.Proofs.Encoding

/-! # Service patches

A patch is found between two states of a service and applied to a third, the one that the cluster
has by then. It carries over what has changed, field by field and annotation by annotation, and
leaves the rest of the third state as it is: `Service.rebase`. From there on nothing needs to be
said of documents. -/

namespace ServiceExposure

/-! ## Values -/

/-- A value that is changed as a whole. -/
def rebaseValue [DecidableEq α] (old new live : α) : α := if old = new then live else new

/-- A part that may be absent. Where it appears, and where it is missing from the third state, the
change is made on an empty one. -/
def rebasePart [DecidableEq α] (rebase : α → α → α → α) (empty : α)
    (old new live : Option α) : Option α :=
  match old, new with
  | none, none => live
  | some _, none => none
  | none, some new => some (rebase empty new (live.getD empty))
  | some old, some new => if old = new then live else some (rebase old new (live.getD empty))

namespace Dict

variable {κ α : Type} [DecidableEq κ] [KeyOrder κ] [DecidableEq α]

/-- Entries that have not changed stay as they are in the third dictionary. -/
def rebase (old new live : Dict κ α) : Dict κ α :=
  let kept := live.toList.filter fun e => old.get? e.1 = new.get? e.1
  let changed := new.toList.filter fun e => old.get? e.1 ≠ new.get? e.1
  ⟨changed.foldl (fun es e => Entries.insert e.1 e.2 es) kept,
    Entries.Ascending.foldl_insert (List.Pairwise.filter _ live.ascending) changed⟩

theorem get?_rebase (old new live : Dict κ α) (key : κ) :
    (rebase old new live).get? key = rebaseValue (old.get? key) (new.get? key) (live.get? key) := by
  have hchanged : Entries.Ascending (new.toList.filter fun e => old.get? e.1 ≠ new.get? e.1) :=
    List.Pairwise.filter _ new.ascending
  have hkept := Entries.get?_filter key (fun k => old.get? k = new.get? k) live.toList
  have hnew := Entries.get?_filter key (fun k => old.get? k ≠ new.get? k) new.toList
  simp only [rebase, rebaseValue]
  rw [Dict.get?, Entries.get?_foldl_insert, Entries.get?_reverse hchanged.nodup, hnew, hkept]
  by_cases h : old.get? key = new.get? key
  · simp only [h, decide_true, ne_eq, not_true, decide_false, if_true, Bool.false_eq_true, if_false,
      Option.none_or]
    rfl
  · simp only [h, decide_false, ne_eq, not_false_eq_true, decide_true, if_true,
      Bool.false_eq_true, if_false, Option.or_none]
    rfl

end Dict

/-! ## Services -/

def Metadata.rebase (old new live : Metadata) : Metadata where
  name := rebaseValue old.name new.name live.name
  generateName := rebaseValue old.generateName new.generateName live.generateName
  inNamespace := rebaseValue old.inNamespace new.inNamespace live.inNamespace
  uid := rebaseValue old.uid new.uid live.uid
  labels := rebasePart Dict.rebase ∅ old.labels new.labels live.labels
  annotations := rebasePart Dict.rebase ∅ old.annotations new.annotations live.annotations
  resourceVersion := rebaseValue old.resourceVersion new.resourceVersion live.resourceVersion
  ownerReferences := rebaseValue old.ownerReferences new.ownerReferences live.ownerReferences
  generation := rebaseValue old.generation new.generation live.generation

def ServiceSpec.rebase (old new live : ServiceSpec) : ServiceSpec where
  ports := rebaseValue old.ports new.ports live.ports
  clusterIP := rebaseValue old.clusterIP new.clusterIP live.clusterIP
  serviceType := rebaseValue old.serviceType new.serviceType live.serviceType
  externalIPs := rebaseValue old.externalIPs new.externalIPs live.externalIPs
  loadBalancerIP := rebaseValue old.loadBalancerIP new.loadBalancerIP live.loadBalancerIP

/-- The third state with the change between the first two. -/
def Service.rebase (old new live : Service) : Service where
  metadata := old.metadata.rebase new.metadata live.metadata
  spec := rebasePart ServiceSpec.rebase {} old.spec new.spec live.spec

/-! ## Laws -/

/-- A way to make a change on a third state: no change leaves it, a change on the first state gives
the second, and to make a change again does nothing. -/
structure LawfulRebase (rebase : α → α → α → α) : Prop where
  same : ∀ old live, rebase old old live = live
  base : ∀ old new, rebase old new old = new
  again : ∀ old new live, rebase old new (rebase old new live) = rebase old new live

theorem LawfulRebase.value [DecidableEq α] : LawfulRebase (rebaseValue (α := α)) where
  same old live := by simp [rebaseValue]
  base old new := by
    simp only [rebaseValue]
    split <;> simp_all
  again old new live := by
    simp only [rebaseValue]
    split <;> simp_all

theorem LawfulRebase.part [DecidableEq α] {rebase : α → α → α → α} (h : LawfulRebase rebase)
    (empty : α) :
    LawfulRebase (rebasePart rebase empty) where
  same old live := by cases old <;> simp [rebasePart]
  base old new := by
    cases old <;> cases new <;> simp only [rebasePart]
    · simp [h.base]
    · split <;> simp_all [h.base]
  again old new live := by
    cases old <;> cases new <;> simp only [rebasePart]
    · simp [h.again]
    · split <;> simp_all [h.again]

theorem LawfulRebase.dict {κ α : Type} [DecidableEq κ] [KeyOrder κ] [DecidableEq α] :
    LawfulRebase (Dict.rebase (κ := κ) (α := α)) where
  same old live := Dict.ext_get? fun key => by rw [Dict.get?_rebase, LawfulRebase.value.same]
  base old new := Dict.ext_get? fun key => by rw [Dict.get?_rebase, LawfulRebase.value.base]
  again old new live := Dict.ext_get? fun key => by
    simp only [Dict.get?_rebase]
    exact LawfulRebase.value.again _ _ _

theorem LawfulRebase.metadata : LawfulRebase Metadata.rebase where
  same old live := by simp [Metadata.rebase, value.same, (part dict _).same]
  base old new := by simp [Metadata.rebase, value.base, (part dict _).base]
  again old new live := by simp [Metadata.rebase, value.again, (part dict _).again]

theorem LawfulRebase.serviceSpec : LawfulRebase ServiceSpec.rebase where
  same old live := by simp [ServiceSpec.rebase, value.same]
  base old new := by simp [ServiceSpec.rebase, value.base]
  again old new live := by simp [ServiceSpec.rebase, value.again]

theorem LawfulRebase.service : LawfulRebase Service.rebase where
  same old live := by simp [Service.rebase, metadata.same, (part serviceSpec _).same]
  base old new := by simp [Service.rebase, metadata.base, (part serviceSpec _).base]
  again old new live := by simp [Service.rebase, metadata.again, (part serviceSpec _).again]

/-! ## Fields as documents -/

namespace Json

open Entries (Ascending)

/-- A field that is written such that the patch between two values makes their change on a third. -/
def RebasesField (write : α → Option Json) (rebase : α → α → α → α) : Prop :=
  ∀ old new live, changed (change? (write old) (write new)) (write live) =
    write (rebase old new live)

/-- As for fields, where the value is the whole document. -/
def Rebases (write : α → Json) (rebase : α → α → α → α) : Prop :=
  ∀ old new live, patched (diff? (write old) (write new)) (write live) = write (rebase old new live)

theorem Encodes.injective {write : α → Json} {read : Reader α} (h : Encodes write read) {a b : α} :
    write a = write b ↔ a = b :=
  ⟨fun heq => Option.some.inj (by rw [← h.reads a, ← h.reads b, heq]), fun heq => by rw [heq]⟩

variable {α : Type} {write : α → Json} {read : Reader α}

/-- No patch is found between two values just if they are equal. -/
theorem Encodes.diff?_eq_none_iff (h : Encodes write read) {a b : α} :
    diff? (write a) (write b) = none ↔ a = b :=
  (Json.diff?_eq_none_iff (h.plain a).canonical (h.plain b).canonical (h.plain a).integral).trans
    h.injective

theorem RebasesField.value [DecidableEq α] (h : Encodes write read)
    (hobj : ∀ a members, write a ≠ .object members) :
    RebasesField (Option.map write) rebaseValue := by
  have hwhole (b : α) (j : Option Json) : changed (some (write b)) j = some (write b) := by
    rw [changed_some (h.plain b).not_null,
      merge_of_not_objects fun changes _ hb => absurd hb (hobj b changes),
      merge_null (h.plain b).canonical (h.plain b).nullFree]
  intro old new live
  cases old with
  | none =>
    cases new with
    | none => simp [change?, rebaseValue]
    | some b => simp [change?, rebaseValue, hwhole b]
  | some a =>
    cases new with
    | none => simp [change?, rebaseValue]
    | some b =>
      by_cases hab : a = b
      · simp [change?, rebaseValue, hab, h.diff?_eq_none_iff.2 rfl]
      · have hdiff : diff? (write a) (write b) = some (write b) := by
          rw [diff?_of_not_objects fun _ new _ => hobj b new]
          simp [agrees_iff (h.plain a).integral, h.injective, hab]
        simp [change?, rebaseValue, hab, hdiff, hwhole b]

/-- A part that is always there. -/
theorem RebasesField.always {rebase : α → α → α → α} (h : Encodes write read)
    (hrebase : Rebases write rebase) :
    RebasesField (fun a => some (write a)) rebase := by
  intro old new live
  have hlive := hrebase old new live
  cases hd : diff? (write old) (write new) with
  | none => simpa [change?, hd, patched] using hlive
  | some patch =>
    simpa [change?, hd, patched, changed_some (diff?_ne_null hd (h.plain new).not_null)] using hlive

/-- A patch that is an object treats what is missing as empty. -/
theorem merge_object_getD (changes : Members) {empty : α} (hempty : write empty = .object [])
    (live : Option α) :
    merge (.object changes) ((live.map write).getD .null) =
      merge (.object changes) (write (live.getD empty)) := by
  cases live with
  | none => simp [hempty, merge, Json.members]
  | some a => rfl

/-- What appears is the patch for an empty object. -/
theorem changes_nil {new : Members} (h : Ascending new) : changes [] new = new :=
  (ascending_changes Entries.ascending_nil new).ext h fun key => by
    rw [get?_changes Entries.ascending_nil h]
    rfl

theorem RebasesField.part [DecidableEq α] {rebase : α → α → α → α} {empty : α}
    (h : Encodes write read) (hobj : ∀ a, ∃ members, write a = .object members)
    (hempty : write empty = .object []) (hrebase : Rebases write rebase) :
    RebasesField (Option.map write) (rebasePart rebase empty) := by
  intro old new live
  cases old with
  | none =>
    cases new with
    | none => simp [change?, rebasePart]
    | some b =>
      obtain ⟨members, hb⟩ := hobj b
      obtain ⟨lives, hlive⟩ := hobj (live.getD empty)
      have hasc : Ascending members := (canonical_object.1 (hb ▸ (h.plain b).canonical)).1
      -- the new part is its own patch from an empty one
      have hmerge := hrebase empty b (live.getD empty)
      rw [hempty, hb, hlive, patched_diff?_object, changes_nil hasc] at hmerge
      simp only [change?, Option.map_none, Option.map_some, rebasePart]
      rw [changed_some (h.plain b).not_null, hb, merge_object_getD members hempty, hlive, ← hmerge]
      rfl
  | some a =>
    cases new with
    | none => simp [change?, rebasePart]
    | some b =>
      by_cases hab : a = b
      · simp [change?, rebasePart, hab, h.diff?_eq_none_iff.2 rfl]
      · obtain ⟨old, ha⟩ := hobj a
        obtain ⟨new, hb⟩ := hobj b
        -- both are objects that differ, so the patch is an object, and what is missing counts as an
        -- empty one
        have hdiff : diff? (write a) (write b) = some (.object (changes old new)) := by
          have hne := mt h.diff?_eq_none_iff.1 hab
          rw [ha, hb, diff?_object] at hne ⊢
          simp_all
        have hmerge := hrebase a b (live.getD empty)
        rw [hdiff] at hmerge
        simp only [change?, Option.map_some, rebasePart, hab, if_false, hdiff]
        rw [changed_some (by simp), merge_object_getD _ hempty]
        exact congrArg some hmerge

/-- Dictionaries are patched key by key. -/
theorem Rebases.dict [DecidableEq α] (h : RebasesField (Option.map write) rebaseValue) :
    Rebases (ofDict write) Dict.rebase := by
  intro old new live
  have hasc (d : Dict String α) : Ascending (d.toList.map fun e => (e.1, write e.2)) :=
    d.ascending.map fun _ => write
  have hget (d : Dict String α) (key : String) :
      Entries.get? key (d.toList.map fun e => (e.1, write e.2)) = (d.get? key).map write :=
    Entries.get?_map key (fun _ => write) d.toList
  simp only [ofDict, patched_diff?_object]
  refine congrArg Json.object ((ascending_mergeMembers (hasc live) _).ext (hasc _) fun key => ?_)
  rw [get?_mergeMembers (ascending_changes (hasc old) _), get?_changes (hasc old) (hasc new), hget,
    hget, hget, hget, Dict.get?_rebase]
  exact h _ _ _

/-! ## Records as documents -/

/-- The fields of three records, and of the third after the change between the first two. -/
inductive RebasedFields : (old new live result : List (String × Option Json)) → Prop
  | nil : RebasedFields [] [] [] []
  | cons {key : String} {o n l r : Option Json} {old new live result : List (String × Option Json)}
      (field : changed (change? o n) l = r) (fields : RebasedFields old new live result) :
      RebasedFields ((key, o) :: old) ((key, n) :: new) ((key, l) :: live) ((key, r) :: result)

namespace RebasedFields

variable {old new live result : List (String × Option Json)}

theorem keys (h : RebasedFields old new live result) :
    new.map (·.1) = old.map (·.1) ∧ live.map (·.1) = old.map (·.1) ∧
    result.map (·.1) = old.map (·.1) := by
  induction h with
  | nil => simp
  | cons _ _ ih => simp [ih]

theorem field? (h : RebasedFields old new live result) (key : String) :
    changed (change? (Json.field? key old) (Json.field? key new)) (Json.field? key live) =
      Json.field? key result := by
  induction h with
  | nil => rfl
  | @cons k _ _ _ _ _ _ _ _ field _ ih =>
    by_cases hk : k = key
    · simpa [Json.field?, Entries.get?_cons, hk] using field
    · simpa [Json.field?, Entries.get?_cons, hk] using ih

/-- Records are patched field by field. -/
theorem patched (h : RebasedFields old new live result) (hnodup : (old.map (·.1)).Nodup) :
    Json.patched (diff? (ofPresent old) (ofPresent new)) (ofPresent live) = ofPresent result := by
  obtain ⟨hnew, hlive, hresult⟩ := h.keys
  have hmember {fields : List (String × Option Json)} (hkeys : fields.map (·.1) = old.map (·.1))
      (key : String) :
      Entries.get? key (ofPresent fields).members = Json.field? key fields :=
    member?_ofPresent (hkeys ▸ hnodup) key
  have hasc (fields : List (String × Option Json)) : Ascending (ofPresent fields).members :=
    ascending_ofMembers _
  have hobject (fields : List (String × Option Json)) :
      ofPresent fields = .object (ofPresent fields).members := rfl
  -- both sides are objects in order: compare what they have under each key
  rw [hobject old, hobject new, hobject live, hobject result, patched_diff?_object]
  refine congrArg Json.object
    ((ascending_mergeMembers (hasc live) _).ext (hasc result) fun key => ?_)
  rw [get?_mergeMembers (ascending_changes (hasc old) _),
    get?_changes (hasc old) (hasc new), hmember rfl, hmember hnew, hmember hlive, hmember hresult]
  exact h.field? key

end RebasedFields

/-! ## Services as documents -/

theorem rebasesField_string : RebasesField (Option.map Json.string) rebaseValue :=
  .value Encodes.string (by simp)

theorem rebasesField_list [DecidableEq α] (h : Encodes write read) :
    RebasesField (Option.map (ofList write)) rebaseValue :=
  .value h.list (by simp [ofList])

theorem rebasesField_dict : RebasesField (Option.map ofStringDict) (rebasePart Dict.rebase ∅) :=
  .part Encodes.stringDict (fun _ => ⟨_, rfl⟩) rfl (.dict rebasesField_string)

theorem rebases_metadata : Rebases Metadata.toJson Metadata.rebase := fun old new live =>
  RebasedFields.patched
    (.cons (rebasesField_string _ _ _) <| .cons (rebasesField_string _ _ _) <|
      .cons (rebasesField_string _ _ _) <| .cons (rebasesField_string _ _ _) <|
      .cons (rebasesField_dict _ _ _) <| .cons (rebasesField_dict _ _ _) <|
      .cons (rebasesField_string _ _ _) <|
      .cons (rebasesField_list OwnerReference.encodes _ _ _) <|
      .cons (RebasesField.value Encodes.int64 (by simp) _ _ _) .nil)
    (by simp)

theorem rebases_serviceSpec : Rebases ServiceSpec.toJson ServiceSpec.rebase := fun old new live =>
  RebasedFields.patched
    (.cons (rebasesField_list ServicePort.encodes _ _ _) <| .cons (rebasesField_string _ _ _) <|
      .cons (rebasesField_string _ _ _) <| .cons (rebasesField_list Encodes.string _ _ _) <|
      .cons (rebasesField_string _ _ _) .nil)
    (by simp)

/-- What is the same in all objects of a kind stays. -/
theorem changed_fixed (text : String) :
    changed (change? (some (.string text)) (some (.string text))) (some (.string text)) =
      some (.string text) := by
  simp [change?, diff?, agrees]

theorem rebases_service : Rebases Service.toJson Service.rebase := fun old new live =>
  RebasedFields.patched
    (.cons (changed_fixed _) <| .cons (changed_fixed _) <|
      .cons (RebasesField.always Metadata.encodes rebases_metadata _ _ _) <|
      .cons (RebasesField.part ServiceSpec.encodes (fun _ => ⟨_, rfl⟩) rfl rebases_serviceSpec
        _ _ _) .nil)
    (by simp [Resource.heading])

end Json

/-! ## Patches -/

namespace Service

/-- A patched service reads back with the change that the patch was found for. -/
theorem ofJson?_patched (observed desired live : Service) :
    ofJson? (Json.patched (Exposure.servicePatch? observed desired) live.toJson) =
      some (observed.rebase desired live) := by
  rw [Exposure.servicePatch?, Json.rebases_service, encodes.reads]

theorem servicePatch?_eq_none_iff {observed desired : Service} :
    Exposure.servicePatch? observed desired = none ↔ observed = desired :=
  encodes.diff?_eq_none_iff

end Service

namespace Sample

/-- A document with annotations, labels and a port. -/
def earlier : Json.Document where
  json := .object [
    ("metadata", .object [
      ("annotations", .object [("a", .string "1"), ("b", .string "2")]),
      ("labels", .object [("x", .string "y")])]),
    ("ports", .array [.int 80])]
  canonical := by
    simp only [Json.Canonical, Json.CanonicalMembers, Json.CanonicalMember, Json.CanonicalItems]
    decide

/-- The same without labels and one of the annotations, with a port that is missing and an empty
specification. -/
def later : Json.Document where
  json := .object [
    ("metadata", .object [("annotations", .object [("b", .string "3")])]),
    ("ports", .array [.int 80, .null]),
    ("spec", .object [])]
  canonical := by
    simp only [Json.Canonical, Json.CanonicalMembers, Json.CanonicalMember, Json.CanonicalItems]
    decide

end Sample

/-- Patches are exact: there is none between two documents just if they are equal, one that is
applied to the document it was found for gives the document it leads to, and so it is for
services. -/
theorem patches_exact :
    (∀ a b : Json.Document, a.json.Integral →
      (Json.diff? a b = none ↔ a = b) ∧ (b.json.NullFree → Json.patched (Json.diff? a b) a = b)) ∧
    ∀ observed desired : Service,
      Service.ofJson? (Json.patched (Exposure.servicePatch? observed desired) observed.toJson) =
        some desired := by
  refine ⟨fun a b hint => ⟨?_, Json.patched_diff? a.canonical b.canonical hint⟩, ?_⟩
  · rw [Json.diff?_eq_none_iff a.canonical b.canonical hint, Json.Document.ext_iff]
  intro observed desired
  rw [Service.ofJson?_patched, LawfulRebase.service.base]

open Sample in
theorem patches_exact_labels_dropped : earlier.json.Integral ∧ later.json.NullFree ∧
    Json.diff? earlier later ≠ none ∧ Json.patched (Json.diff? earlier later) earlier = later := by
  have hint : earlier.json.Integral := by
    simp [earlier, Json.Integral, Json.IntegralMembers, Json.IntegralMember, Json.IntegralItems]
  have hnull : later.json.NullFree := by
    simp [later, Json.NullFree, Json.NullFreeMembers, Json.NullFreeMember]
  obtain ⟨hnone, hpatched⟩ := patches_exact.1 earlier later hint
  exact ⟨hint, hnull, mt hnone.1 (by simp [earlier, later]), hpatched hnull⟩

end ServiceExposure
