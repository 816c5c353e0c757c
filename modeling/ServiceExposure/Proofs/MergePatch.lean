import ServiceExposure.Json.MergePatch
import ServiceExposure.Proofs.Lookup

/-! # Merge patches are exact

What a patch does to a document is said member by member: `changed` for one that is applied,
`change?` for one that is found. From these two, by induction on the documents, the patch between
two documents is `none` just if they are equal, and otherwise leads from the first to the second. -/

namespace ServiceExposure.Json

open Entries (Ascending)

/-! ## Induction -/

/-- Induction on a document through the items of its arrays and the members of its objects. -/
theorem induction {motive : Json → Prop} (null : motive .null) (bool : ∀ b, motive (.bool b))
    (int : ∀ n, motive (.int n)) (float : ∀ x, motive (.float x)) (string : ∀ s, motive (.string s))
    (array : ∀ items, (∀ j ∈ items, motive j) → motive (.array items))
    (object : ∀ members, (∀ m ∈ members, motive m.2) → motive (.object members)) : ∀ j, motive j
  | .null => null
  | .bool b => bool b
  | .int n => int n
  | .float x => float x
  | .string s => string s
  | .array items => array items fun j _ => induction null bool int float string array object j
  | .object members => object members fun m _ =>
      induction null bool int float string array object m.2
termination_by j => sizeOf j
decreasing_by
  · have := List.sizeOf_lt_of_mem ‹_›
    simp only [Json.array.sizeOf_spec]
    omega
  · have := List.sizeOf_lt_of_mem ‹_›
    cases m
    simp only [Json.object.sizeOf_spec, Prod.mk.sizeOf_spec] at *
    omega

/-! ## Kinds of documents -/

mutual

/-- All numbers in the document are integers. -/
def Integral : Json → Prop
  | .float _ => False
  | .array items => IntegralItems items
  | .object members => IntegralMembers members
  | .null | .bool _ | .int _ | .string _ => True
termination_by structural a => a

def IntegralItems : List Json → Prop
  | [] => True
  | item :: items => Integral item ∧ IntegralItems items
termination_by structural items => items

def IntegralMembers : List (String × Json) → Prop
  | [] => True
  | m :: ms => IntegralMember m ∧ IntegralMembers ms
termination_by structural ms => ms

def IntegralMember : String × Json → Prop
  | (_, j) => Integral j
termination_by structural m => m

end

mutual

/-- No member that is reached through objects alone is `null`. What stands in arrays does not
matter. -/
def NullFree : Json → Prop
  | .object members => NullFreeMembers members
  | .null | .bool _ | .int _ | .float _ | .string _ | .array _ => True
termination_by structural a => a

def NullFreeMembers : List (String × Json) → Prop
  | [] => True
  | m :: ms => NullFreeMember m ∧ NullFreeMembers ms
termination_by structural ms => ms

def NullFreeMember : String × Json → Prop
  | (_, j) => j ≠ .null ∧ NullFree j
termination_by structural m => m

end

@[simp] theorem canonical_array {items : List Json} :
    Canonical (.array items) ↔ ∀ j ∈ items, Canonical j := by
  simp only [Canonical]
  induction items with
  | nil => simp [CanonicalItems]
  | cons j items ih => simp [CanonicalItems, ih]

@[simp] theorem canonical_object {members : Members} :
    Canonical (.object members) ↔ Ascending members ∧ ∀ m ∈ members, Canonical m.2 := by
  have h : CanonicalMembers members ↔ ∀ m ∈ members, Canonical m.2 := by
    induction members with
    | nil => simp [CanonicalMembers]
    | cons m members ih =>
      obtain ⟨key, j⟩ := m
      simp [CanonicalMembers, CanonicalMember, ih]
  simp only [Canonical, h]

@[simp] theorem integral_array {items : List Json} :
    Integral (.array items) ↔ ∀ j ∈ items, Integral j := by
  simp only [Integral]
  induction items with
  | nil => simp [IntegralItems]
  | cons j items ih => simp [IntegralItems, ih]

@[simp] theorem integral_object {members : Members} :
    Integral (.object members) ↔ ∀ m ∈ members, Integral m.2 := by
  simp only [Integral]
  induction members with
  | nil => simp [IntegralMembers]
  | cons m members ih =>
    obtain ⟨key, j⟩ := m
    simp [IntegralMembers, IntegralMember, ih]

@[simp] theorem nullFree_object {members : Members} :
    NullFree (.object members) ↔ ∀ m ∈ members, m.2 ≠ .null ∧ NullFree m.2 := by
  simp only [NullFree]
  induction members with
  | nil => simp [NullFreeMembers]
  | cons m members ih =>
    obtain ⟨key, j⟩ := m
    simp [NullFreeMembers, NullFreeMember, ih]

/-! ## Applying a patch, member by member -/

/-- What becomes of a member, present or not, under the change that a patch has for it. -/
def changed (change old : Option Json) : Option Json :=
  match change with
  | none => old
  | some .null => none
  | some patch => some (merge patch (old.getD .null))

@[simp] theorem changed_none (old : Option Json) : changed none old = old := rfl

@[simp] theorem changed_null (old : Option Json) : changed (some .null) old = none := rfl

theorem changed_some {patch : Json} (h : patch ≠ .null) (old : Option Json) :
    changed (some patch) old = some (merge patch (old.getD .null)) := by
  cases patch <;> first | rfl | exact absurd rfl h

theorem get?_mergeMember (key : String) (change : String × Json) (members : Members) :
    Entries.get? key (mergeMember change members) =
      if change.1 = key then changed (some change.2) (Entries.get? key members)
      else Entries.get? key members := by
  obtain ⟨k, patch⟩ := change
  by_cases hk : k = key
  · subst hk
    cases patch <;> simp [mergeMember, changed]
  · cases patch <;>
      simp [mergeMember, hk, Entries.get?_insert_of_ne hk, Entries.get?_erase_of_ne hk]

/-- A patch changes each member by itself. -/
theorem get?_mergeMembers {changes : Members} (h : Ascending changes) (key : String)
    (members : Members) :
    Entries.get? key (mergeMembers changes members) =
      changed (Entries.get? key changes) (Entries.get? key members) := by
  induction changes generalizing members with
  | nil => rfl
  | cons change changes ih =>
    simp only [mergeMembers, ih h.tail, get?_mergeMember, Entries.get?_cons]
    by_cases hk : change.1 = key
    -- keys ascend, so no later change is for this member
    · have hrest : Entries.get? key changes = none := hk ▸ h.get?_head
      simp [hk, hrest]
    · simp [hk]

theorem ascending_mergeMembers {members : Members} (h : Ascending members) (changes : Members) :
    Ascending (mergeMembers changes members) := by
  induction changes generalizing members with
  | nil => exact h
  | cons change changes ih =>
    obtain ⟨k, patch⟩ := change
    refine ih ?_
    cases patch <;> first | exact h.erase k | exact h.insert k _

/-- A patch between objects that has no `null` in it can be applied to nothing, to give itself. -/
theorem merge_null {j : Json} (hc : j.Canonical) (hn : j.NullFree) : merge j .null = j := by
  induction j using induction with
  | object members ih =>
    obtain ⟨hasc, hcanon⟩ := canonical_object.1 hc
    have hnull := nullFree_object.1 hn
    have hmerged : mergeMembers members [] = members := by
      -- both lists ascend: it is enough to look at each key
      refine (ascending_mergeMembers Entries.ascending_nil members).ext hasc fun key => ?_
      rw [get?_mergeMembers hasc]
      cases hkey : Entries.get? key members with
      | none => rfl
      | some value =>
        have hmem := Entries.mem_of_get? hkey
        rw [changed_some (hnull _ hmem).1]
        exact congrArg some (ih _ hmem (hcanon _ hmem) (hnull _ hmem).2)
    simp [merge, Json.members, hmerged]
  | _ => simp [merge]

/-- A patch that is no object, or that is for no object, does not see what it is for. -/
theorem merge_of_not_objects {patch j : Json}
    (h : ∀ changes members, patch = .object changes → j ≠ .object members) :
    merge patch j = merge patch .null := by
  cases patch <;> cases j <;> first | rfl | exact absurd rfl (h _ _ rfl)

/-! ## Finding a patch, member by member -/

/-- The change that leads from one member, present or not, to another. -/
def change? : (old new : Option Json) → Option Json
  | some old, some new => diff? old new
  | some _, none => some .null
  | none, new => new

/-- The changes that lead from the members of one object to those of another. -/
def changes (old new : Members) : Members :=
  (new.filter fun m => (Entries.get? m.1 old).isNone).foldl (fun ms m => Entries.insert m.1 m.2 ms)
    (diffMembers old new)

theorem diff?_object (old new : Members) :
    diff? (.object old) (.object new) =
      if changes old new = [] then none else some (.object (changes old new)) := by
  cases h : changes old new <;> (rw [changes] at h; simp [diff?, h])

theorem diffMember_keys {m e : String × Json} {new : Members} (h : e ∈ diffMember m new) :
    e.1 = m.1 := by
  obtain ⟨key, old⟩ := m
  simp only [diffMember] at h
  split at h
  · simp_all
  · simp only [Option.mem_toList, Option.map_eq_some_iff] at h
    obtain ⟨patch, -, rfl⟩ := h
    rfl

theorem get?_diffMember (m : String × Json) (new : Members) :
    Entries.get? m.1 (diffMember m new) = change? (some m.2) (Entries.get? m.1 new) := by
  obtain ⟨key, old⟩ := m
  simp only [diffMember]
  split
  · next h => simp [h, change?, Entries.get?_cons]
  · next value h =>
    cases hd : diff? old value <;> simp [h, change?, hd, Entries.get?_cons]

theorem get?_diffMembers {old : Members} (h : Ascending old) (key : String) (new : Members) :
    Entries.get? key (diffMembers old new) =
      (Entries.get? key old).bind fun value => change? (some value) (Entries.get? key new) := by
  induction old with
  | nil => rfl
  | cons m old ih =>
    simp only [diffMembers, Entries.get?_append, ih h.tail, Entries.get?_cons]
    by_cases hk : m.1 = key
    · subst hk
      simp [get?_diffMember, h.get?_head]
    · have hnone : Entries.get? key (diffMember m new) = none :=
        Entries.get?_eq_none_of_forall_ne fun e he => diffMember_keys he ▸ hk
      simp [hk, hnone]

theorem diffMembers_keys {old new : Members} {e : String × Json} (h : e ∈ diffMembers old new) :
    ∃ m ∈ old, m.1 = e.1 := by
  induction old with
  | nil => simp [diffMembers] at h
  | cons m old ih =>
    simp only [diffMembers, List.mem_append] at h
    rcases h with h | h
    · exact ⟨m, by simp, (diffMember_keys h).symm⟩
    · obtain ⟨d, hd, hkey⟩ := ih h
      exact ⟨d, by simp [hd], hkey⟩

theorem ascending_diffMembers {old : Members} (h : Ascending old) (new : Members) :
    Ascending (diffMembers old new) := by
  induction old with
  | nil => exact Entries.ascending_nil
  | cons m old ih =>
    have hhead := (List.pairwise_cons.1 h).1
    have hone : Ascending (diffMember m new) := by
      obtain ⟨key, value⟩ := m
      simp only [diffMember]
      split
      · exact List.pairwise_singleton _ _
      · next new _ => cases diff? value new <;> simp [Ascending]
    -- each change has the key of the member that it is for
    refine List.pairwise_append.2 ⟨hone, ih h.tail, fun a ha b hb => ?_⟩
    obtain ⟨d, hd, hkey⟩ := diffMembers_keys hb
    rw [diffMember_keys ha, ← hkey]
    exact hhead d hd

theorem ascending_changes {old : Members} (h : Ascending old) (new : Members) :
    Ascending (changes old new) :=
  (ascending_diffMembers h new).foldl_insert _

/-- A patch has for each member the change between the two values that it has before and after. -/
theorem get?_changes {old new : Members} (hold : Ascending old) (hnew : Ascending new)
    (key : String) :
    Entries.get? key (changes old new) = change? (Entries.get? key old) (Entries.get? key new) := by
  have hadded : Ascending (new.filter fun m => (Entries.get? m.1 old).isNone) :=
    List.Pairwise.filter _ hnew
  -- members that are only in the second object are put in after the changes of the first
  rw [changes, Entries.get?_foldl_insert, Entries.get?_reverse hadded.nodup,
    Entries.get?_filter key fun k => (Entries.get? k old).isNone, get?_diffMembers hold]
  cases Entries.get? key old with
  | none => simp [change?]
  | some value => simp

/-- There is nothing to change just if no member changes. -/
theorem changes_eq_nil_iff {old new : Members} (hold : Ascending old) (hnew : Ascending new) :
    changes old new = [] ↔ ∀ key, change? (Entries.get? key old) (Entries.get? key new) = none := by
  simp only [← get?_changes hold hnew]
  exact ⟨fun h key => by rw [h]; rfl,
    fun h => (ascending_changes hold new).ext Entries.ascending_nil h⟩

/-! ## Exactness -/

theorem agreesItems_iff {as : List Json} (h : ∀ a ∈ as, ∀ b, agrees a b = true ↔ a = b)
    (bs : List Json) :
    agreesItems as bs = true ↔ as = bs := by
  induction as generalizing bs with
  | nil => cases bs <;> simp [agreesItems]
  | cons a as ih =>
    cases bs with
    | nil => simp [agreesItems]
    | cons b bs => simp [agreesItems, h a (by simp) b, ih (fun a ha => h a (by simp [ha])) bs]

theorem agreesMembers_iff {as : Members} (h : ∀ m ∈ as, ∀ b, agrees m.2 b = true ↔ m.2 = b)
    (bs : Members) :
    agreesMembers as bs = true ↔ as = bs := by
  induction as generalizing bs with
  | nil => cases bs <;> simp [agreesMembers]
  | cons a as ih =>
    cases bs with
    | nil => simp [agreesMembers]
    | cons b bs =>
      obtain ⟨k, a⟩ := a
      obtain ⟨l, b⟩ := b
      simp [agreesMembers, agreesMember, h (k, a) (by simp) b,
        ih (fun m hm => h m (by simp [hm])) bs]

/-- Without doubles there is no sign of zero to pass over. -/
theorem agrees_iff {a : Json} (ha : a.Integral) (b : Json) : agrees a b = true ↔ a = b := by
  induction a using induction generalizing b with
  | float x => simp [Integral] at ha
  | array items ih =>
    -- numbers inside arrays are compared, too, so the items have to be free of doubles
    have h := agreesItems_iff fun j hj => ih j hj (integral_array.1 ha j hj)
    cases b <;> simp [agrees, h]
  | object members ih =>
    have h := agreesMembers_iff fun m hm => ih m hm (integral_object.1 ha m hm)
    cases b <;> simp [agrees, h]
  | _ => cases b <;> simp [agrees]

/-- Documents that are not both objects have no members to compare. -/
theorem diff?_of_not_objects {a b : Json} (h : ∀ old new, a = .object old → b ≠ .object new) :
    diff? a b = if agrees a b then none else some b := by
  cases a <;> cases b <;> first | rfl | exact absurd rfl (h _ _ rfl)

/-- Where the changes between two members are found exactly, those between the objects are, too. -/
theorem diff?_object_eq_none_iff {old new : Members} (hold : Ascending old) (hnew : Ascending new)
    (h : ∀ key a b, Entries.get? key old = some a → Entries.get? key new = some b →
      (diff? a b = none ↔ a = b)) :
    diff? (.object old) (.object new) = none ↔ old = new := by
  have hkey (key : String) :
      change? (Entries.get? key old) (Entries.get? key new) = none ↔
      Entries.get? key old = Entries.get? key new := by
    cases ha : Entries.get? key old with
    | none => simp [change?, eq_comm]
    | some a =>
      cases hb : Entries.get? key new with
      | none => simp [change?]
      | some b => simpa [change?] using h key a b ha hb
  calc diff? (.object old) (.object new) = none
    _ ↔ changes old new = [] := by simp [diff?_object]
    _ ↔ ∀ key, Entries.get? key old = Entries.get? key new := by
      simp only [changes_eq_nil_iff hold hnew, hkey]
    _ ↔ old = new := ⟨hold.ext hnew, fun h key => by rw [h]⟩

/-- There is no patch between two documents just if they are equal. -/
theorem diff?_eq_none_iff {a b : Json} (ha : a.Canonical) (hb : b.Canonical) (hint : a.Integral) :
    diff? a b = none ↔ a = b := by
  induction a using induction generalizing b with
  | object old ih =>
    cases b with
    | object new =>
      obtain ⟨hold, holds⟩ := canonical_object.1 ha
      obtain ⟨hnew, hnews⟩ := canonical_object.1 hb
      rw [diff?_object_eq_none_iff hold hnew, Json.object.injEq]
      intro key a b hmema hmemb
      have ha := Entries.mem_of_get? hmema
      exact ih _ ha (holds _ ha) (hnews _ (Entries.mem_of_get? hmemb)) (integral_object.1 hint _ ha)
    | _ => simp [diff?, agrees]
  | _ =>
    rw [diff?_of_not_objects (by simp)]
    simp [agrees_iff hint]

/-- A patch that is found between two documents does not say `null` unless the second one does. -/
theorem diff?_ne_null {a b patch : Json} (h : diff? a b = some patch) (hb : b ≠ .null) :
    patch ≠ .null := by
  by_cases hobj : ∃ old new, a = .object old ∧ b = .object new
  · obtain ⟨old, new, rfl, rfl⟩ := hobj
    rw [diff?_object] at h
    split at h
    · simp at h
    · simp [← Option.some.inj h]
  · rw [diff?_of_not_objects fun old new ha hb => hobj ⟨old, new, ha, hb⟩] at h
    split at h
    · simp at h
    · rwa [← Option.some.inj h]

/-- A document after a patch, if there is one. -/
def patched (patch : Option Json) (j : Json) : Json :=
  match patch with
  | none => j
  | some patch => merge patch j

theorem patched_diff?_object (old new live : Members) :
    patched (diff? (.object old) (.object new)) (.object live) =
      .object (mergeMembers (changes old new) live) := by
  rw [diff?_object]
  split
  · next h => simp [h, patched, mergeMembers]
  · rfl

/-- The change that was found between two values of a member leads from the first to the second. -/
theorem changed_change? {old new : Option Json}
    (hnew : ∀ b, new = some b → b ≠ .null ∧ b.Canonical ∧ b.NullFree)
    (h : ∀ a b, old = some a → new = some b → patched (diff? a b) a = b) :
    changed (change? old new) old = new := by
  cases new with
  | none => cases old <;> rfl
  | some b =>
    obtain ⟨hnull, hcanon, hfree⟩ := hnew b rfl
    cases old with
    | none => simp [change?, changed_some hnull, merge_null hcanon hfree]
    | some a =>
      have hab := h a b rfl rfl
      cases hd : diff? a b with
      | none => simpa [change?, hd, patched] using hab
      | some patch => simpa [change?, hd, patched, changed_some (diff?_ne_null hd hnull)] using hab

/-- A patch that is applied to the document it was found for gives the document it leads to. -/
theorem patched_diff? {a b : Json} (ha : a.Canonical) (hb : b.Canonical) (hint : a.Integral)
    (hnull : b.NullFree) :
    patched (diff? a b) a = b := by
  induction a using induction generalizing b with
  | object old ih =>
    cases b with
    | object new =>
      obtain ⟨hold, holds⟩ := canonical_object.1 ha
      obtain ⟨hnew, hnews⟩ := canonical_object.1 hb
      have hnulls := nullFree_object.1 hnull
      rw [patched_diff?_object]
      -- member by member: the change found for a key, applied to what the first object has there
      refine congrArg Json.object ((ascending_mergeMembers hold _).ext hnew fun key => ?_)
      rw [get?_mergeMembers (ascending_changes hold new), get?_changes hold hnew]
      refine changed_change? (fun b hb => ?_) fun a b ha hb => ?_
      · have hmem := Entries.mem_of_get? hb
        exact ⟨(hnulls _ hmem).1, hnews _ hmem, (hnulls _ hmem).2⟩
      · have hmema := Entries.mem_of_get? ha
        have hmemb := Entries.mem_of_get? hb
        exact ih _ hmema (holds _ hmema) (hnews _ hmemb) (integral_object.1 hint _ hmema)
          (hnulls _ hmemb).2
    | _ => rfl
  | _ =>
    rw [diff?_of_not_objects (by simp)]
    split
    · next h => exact (agrees_iff hint _).1 h
    -- the patch is the second document; as it has no null, nothing in it is read as a deletion
    · exact (merge_of_not_objects (by simp)).trans (merge_null hb hnull)

end ServiceExposure.Json
