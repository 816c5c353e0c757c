import ServiceExposure.Proofs.MergePatch

/-! # Patches for documents that have moved on

A patch that was found between two documents may be applied to a third, in which the members that it
names have other values, are missing, or lie where there is no object. What the third document has
at a path is then decided by what the patch was found between: where these two agree, the patch has
nothing to say. -/

namespace ServiceExposure

namespace Json

open Entries (Ascending)

/-! ## Paths -/

/-- What is found by following keys from object to object. -/
def valueAt? : (path : List String) → Json → Option Json
  | [], j => some j
  | key :: path, j => (j.member? key).bind (valueAt? path)

@[simp] theorem valueAt?_nil (j : Json) : valueAt? [] j = some j := rfl

@[simp] theorem valueAt?_cons (key : String) (path : List String) (j : Json) :
    valueAt? (key :: path) j = (j.member? key).bind (valueAt? path) := rfl

@[simp] theorem member?_object (key : String) (members : Members) :
    (object members).member? key = Entries.get? key members := rfl

theorem bind_valueAt?_nil (member : Option Json) :
    member.bind (valueAt? []) = member := by cases member <;> rfl

/-- A path that goes on finds the same in `null` as in nothing. -/
theorem bind_valueAt? {path : List String} (h : path ≠ []) (member : Option Json) :
    member.bind (valueAt? path) = valueAt? path (member.getD .null) := by
  cases member with
  | some j => rfl
  | none =>
    obtain ⟨key, path, rfl⟩ := List.exists_cons_of_ne_nil h
    rfl

/-- Whether two documents are objects wherever the path goes on. -/
def BothObjectsBefore (path : List String) (a b : Json) : Prop :=
  ∀ front, front <+: path → front ≠ path →
    ∃ old new, valueAt? front a = some (.object old) ∧ valueAt? front b = some (.object new)

/-- Whether two documents have the same at a path, which may be nothing. Numbers are compared as
such. -/
def AgreeAt (path : List String) (a b : Json) : Prop :=
  Option.Rel (fun x y => agrees x y) (valueAt? path a) (valueAt? path b)

theorem agrees_self (j : Json) : agrees j j := by
  induction j using induction with
  | array items ih =>
    have hitems : agreesItems items items := by
      induction items with
      | nil => rfl
      | cons j items ihs =>
        simp [agreesItems, ih j, ihs fun j hj => ih j (List.mem_cons_of_mem _ hj)]
    simpa [agrees] using hitems
  | object members ih =>
    have hmembers : agreesMembers members members := by
      induction members with
      | nil => rfl
      | cons m members ihs =>
        obtain ⟨key, j⟩ := m
        simp [agreesMembers, agreesMember, ih (key, j),
          ihs fun m hm => ih m (List.mem_cons_of_mem _ hm)]
    simpa [agrees] using hmembers
  | _ => simp [agrees, Binary64.agrees]

section

variable {key : String} {path : List String} {a b : Json}

theorem AgreeAt.of_eq (h : valueAt? path a = valueAt? path b) : AgreeAt path a b := by
  rw [AgreeAt, h]
  cases valueAt? path b with
  | none => exact .none
  | some j => exact .some (agrees_self j)

theorem BothObjectsBefore.head (h : BothObjectsBefore (key :: path) a b) :
    ∃ old new, a = .object old ∧ b = .object new := by
  obtain ⟨old, new, hold, hnew⟩ := h [] (List.nil_prefix) (List.cons_ne_nil _ _).symm
  exact ⟨old, new, Option.some.inj hold, Option.some.inj hnew⟩

theorem BothObjectsBefore.second {next : String} (h : BothObjectsBefore (key :: next :: path) a b) :
    ∃ old new, a.member? key = some (.object old) ∧ b.member? key = some (.object new) := by
  have hfront : [key] <+: key :: next :: path := (List.prefix_cons_inj key).2 List.nil_prefix
  have hne : [key] ≠ key :: next :: path :=
    fun heq => List.cons_ne_nil _ _ (List.cons.inj heq).2.symm
  simpa only [valueAt?_cons, bind_valueAt?_nil] using h [key] hfront hne

theorem BothObjectsBefore.tail (h : BothObjectsBefore (key :: path) a b) {x y : Json}
    (hx : a.member? key = some x) (hy : b.member? key = some y) : BothObjectsBefore path x y := by
  intro front hfront hne
  have hlonger : key :: front <+: key :: path := (List.prefix_cons_inj key).2 hfront
  have hother : key :: front ≠ key :: path := fun heq => hne (List.cons.inj heq).2
  simpa [hx, hy] using h (key :: front) hlonger hother

end

/-! ## Where a patch has nothing to say -/

theorem agreesMembers_get? {old new : Members} (h : agreesMembers old new) (key : String) :
    Option.Rel (fun x y => agrees x y) (Entries.get? key old) (Entries.get? key new) := by
  induction old generalizing new with
  | nil =>
    cases new with
    | nil => exact .none
    | cons m new => simp [agreesMembers] at h
  | cons m old ih =>
    cases new with
    | nil => simp [agreesMembers] at h
    | cons n new =>
      obtain ⟨k, x⟩ := m
      obtain ⟨l, y⟩ := n
      simp only [agreesMembers, agreesMember, Bool.and_eq_true, beq_iff_eq] at h
      obtain ⟨⟨rfl, hvalue⟩, hrest⟩ := h
      simp only [Entries.get?_cons]
      split
      · exact .some hvalue
      · exact ih hrest

theorem change?_of_agree {old new : Option Json} (h : Option.Rel (fun x y => agrees x y) old new)
    (hdiff : ∀ x y, old = some x → new = some y → agrees x y → diff? x y = none) :
    change? old new = none := by
  cases h with
  | none => rfl
  | some hagrees => exact hdiff _ _ rfl rfl hagrees

/-- There is no patch between documents that agree. -/
theorem diff?_of_agrees {a b : Json} (ha : a.Canonical) (hb : b.Canonical) (h : agrees a b) :
    diff? a b = none := by
  induction a using induction generalizing b with
  | object old ih =>
    cases b with
    | object new =>
      obtain ⟨hold, holds⟩ := canonical_object.1 ha
      obtain ⟨hnew, hnews⟩ := canonical_object.1 hb
      rw [diff?_object, if_pos ((changes_eq_nil_iff hold hnew).2 fun key => ?_)]
      refine change?_of_agree (agreesMembers_get? (by simpa [agrees] using h) key)
        fun x y hx hy hxy => ?_
      have hmem := Entries.mem_of_get? hx
      exact ih _ hmem (holds _ hmem) (hnews _ (Entries.mem_of_get? hy)) hxy
    | _ => simp [agrees] at h
  | _ => rw [diff?_of_not_objects (by simp), if_pos h]

/-- What a patch between two objects makes of a member of any document. -/
theorem member?_patched_diff? {old new : Members} (hold : Ascending old) (hnew : Ascending new)
    (key : String) (live : Json) : (patched (diff? (.object old) (.object new)) live).member? key =
      changed (change? (Entries.get? key old) (Entries.get? key new)) (live.member? key) := by
  rw [diff?_object]
  split
  · next h => rw [(changes_eq_nil_iff hold hnew).1 h key, changed_none, patched]
  · rw [← get?_changes hold hnew]
    exact get?_mergeMembers (ascending_changes hold new) key live.members

/-- A member that a patch goes into is changed as a document of its own, and as `null` where it was
missing. -/
theorem getD_changed {patch : Option Json} (h : patch ≠ some .null) (old : Option Json) :
    (changed patch old).getD .null = patched patch (old.getD .null) := by
  cases patch with
  | none => rfl
  | some patch =>
    have hnull : patch ≠ .null := fun heq => h (heq ▸ rfl)
    rw [changed_some hnull]
    rfl

/-- A patch leaves alone what any document has at a path where the two documents that it is found
between agree. -/
theorem valueAt?_patched {path : List String} {a b : Json} (ha : a.Canonical) (hb : b.Canonical)
    (hobjects : BothObjectsBefore path a b) (hagree : AgreeAt path a b) (live : Json) :
    valueAt? path (patched (diff? a b) live) = valueAt? path live := by
  induction path generalizing a b live with
  | nil =>
    cases hagree with
    | some h => rw [diff?_of_agrees ha hb h, patched]
  | cons key path ih =>
    obtain ⟨old, new, rfl, rfl⟩ := hobjects.head
    obtain ⟨hold, holds⟩ := canonical_object.1 ha
    obtain ⟨hnew, hnews⟩ := canonical_object.1 hb
    simp only [valueAt?_cons, member?_patched_diff? hold hnew]
    cases path with
    | nil =>
      have hnone : change? (Entries.get? key old) (Entries.get? key new) = none := by
        refine change?_of_agree (by simpa [AgreeAt, bind_valueAt?_nil] using hagree)
          fun x y hx hy => ?_
        exact diff?_of_agrees (holds _ (Entries.mem_of_get? hx)) (hnews _ (Entries.mem_of_get? hy))
      rw [hnone, changed_none]
    | cons next path =>
      -- the patch for the member is one between objects, so the member is not removed
      obtain ⟨old', new', hx, hy⟩ := hobjects.second
      have hobject : object new' ≠ .null := Json.noConfusion
      have hpatch : diff? (.object old') (.object new') ≠ some .null :=
        fun h => diff?_ne_null h hobject rfl
      have hrest : AgreeAt (next :: path) (.object old') (.object new') := by
        simpa only [AgreeAt, valueAt?_cons key, hx, hy, Option.bind_some] using hagree
      simp only [member?_object] at hx hy
      rw [hx, hy]
      calc (changed (diff? (.object old') (.object new')) (live.member? key)).bind
            (valueAt? (next :: path))
        _ = valueAt? (next :: path)
            (patched (diff? (.object old') (.object new')) ((live.member? key).getD .null)) := by
          rw [bind_valueAt? (List.cons_ne_nil _ _), getD_changed hpatch]
        _ = valueAt? (next :: path) ((live.member? key).getD .null) :=
          ih (holds _ (Entries.mem_of_get? hx)) (hnews _ (Entries.mem_of_get? hy))
            (hobjects.tail hx hy) hrest _
        _ = (live.member? key).bind (valueAt? (next :: path)) :=
          (bind_valueAt? (List.cons_ne_nil _ _) _).symm

/-! ## Applied again -/

theorem canonical_members {j : Json} (h : j.Canonical) :
    Ascending j.members ∧ ∀ m ∈ j.members, m.2.Canonical := by
  cases j with
  | object members => exact canonical_object.1 h
  | _ => exact ⟨Entries.ascending_nil, nofun⟩

theorem canonical_diff? {a b patch : Json} (ha : a.Canonical) (hb : b.Canonical)
    (h : diff? a b = some patch) :
    patch.Canonical := by
  induction a using induction generalizing b patch with
  | object old ih =>
    cases b with
    | object new =>
      obtain ⟨hold, holds⟩ := canonical_object.1 ha
      obtain ⟨hnew, hnews⟩ := canonical_object.1 hb
      have hchanges := ascending_changes hold new
      rw [diff?_object] at h
      split at h
      · cases h
      · obtain rfl := Option.some.inj h
        refine canonical_object.2 ⟨hchanges, fun m hm => ?_⟩
        have hchange := get?_changes hold hnew m.1
        rw [hchanges.get?_of_mem hm] at hchange
        cases hx : Entries.get? m.1 old with
        | none =>
          rw [hx] at hchange
          exact hnews _ (Entries.mem_of_get? hchange.symm)
        | some x =>
          have hmem := Entries.mem_of_get? hx
          cases hy : Entries.get? m.1 new with
          | none =>
            rw [hx, hy] at hchange
            rw [Option.some.inj hchange]
            trivial
          | some y =>
            rw [hx, hy] at hchange
            exact ih _ hmem (holds _ hmem) (hnews _ (Entries.mem_of_get? hy)) hchange.symm
    | _ =>
      obtain rfl := Option.some.inj h
      exact hb
  | _ =>
    rw [diff?_of_not_objects (by simp)] at h
    split at h
    · cases h
    · exact Option.some.inj h ▸ hb

theorem changed_again {change old : Option Json}
    (h : ∀ patch, change = some patch →
      merge patch (merge patch (old.getD .null)) = merge patch (old.getD .null)) :
    changed change (changed change old) = changed change old := by
  cases change with
  | none => rfl
  | some patch =>
    by_cases hnull : patch = .null
    · rw [hnull]
      rfl
    · rw [changed_some hnull, changed_some hnull, Option.getD_some, h patch rfl]

/-- What a patch makes of a document stays when the patch is applied again. -/
theorem merge_again {patch j : Json} (hpatch : patch.Canonical) (hj : j.Canonical) :
    merge patch (merge patch j) = merge patch j := by
  induction patch using induction generalizing j with
  | object changes ih =>
    obtain ⟨hchanges, hvalues⟩ := canonical_object.1 hpatch
    obtain ⟨hmembers, hmember⟩ := canonical_members hj
    have hmerged := ascending_mergeMembers hmembers changes
    refine congrArg Json.object ((ascending_mergeMembers hmerged changes).ext hmerged fun key => ?_)
    rw [get?_mergeMembers hchanges, get?_mergeMembers hchanges]
    refine changed_again fun patch hpatch => ?_
    have hmem := Entries.mem_of_get? hpatch
    refine ih _ hmem (hvalues _ hmem) ?_
    cases hold : Entries.get? key j.members with
    | none => trivial
    | some old => exact hmember _ (Entries.mem_of_get? hold)
  | _ => rfl

theorem patched_diff?_again {a b live : Json} (ha : a.Canonical) (hb : b.Canonical)
    (hlive : live.Canonical) :
    patched (diff? a b) (patched (diff? a b) live) = patched (diff? a b) live := by
  cases h : diff? a b with
  | none => rfl
  | some patch => exact merge_again (canonical_diff? ha hb h) hlive

end Json

/-! ## Documents that have moved on -/

namespace Sample

def observedDocument : Json.Document where
  json := .object [
    ("labels", .object [("old", .null), ("team", .string "web")]),
    ("spec", .object [("type", .string "ClusterIP")])]
  canonical := by
    simp only [Json.Canonical, Json.CanonicalMembers, Json.CanonicalMember]
    decide

def desiredDocument : Json.Document where
  json := .object [
    ("labels", .object [("team", .string "web")]),
    ("spec", .object [("type", .string "NodePort")])]
  canonical := by
    simp only [Json.Canonical, Json.CanonicalMembers, Json.CanonicalMember]
    decide

/-- A document in which others have set a label, and the specification is another thing. -/
def liveDocument : Json.Document where
  json := .object [
    ("labels", .object [("old", .int 1), ("team", .string "payments")]),
    ("spec", .array [])]
  canonical := by
    simp only [Json.Canonical, Json.CanonicalMembers, Json.CanonicalMember, Json.CanonicalItems]
    decide

theorem bothObjectsBefore_team :
    Json.BothObjectsBefore ["labels", "team"] observedDocument desiredDocument := by
  intro front hfront hne
  rcases List.prefix_cons_iff.1 hfront with rfl | ⟨rest, rfl, hrest⟩
  · exact ⟨_, _, rfl, rfl⟩
  · rcases List.prefix_cons_iff.1 hrest with rfl | ⟨last, rfl, hlast⟩
    · exact ⟨_, _, rfl, rfl⟩
    · exact absurd (by rw [List.prefix_nil.1 hlast]) hne

end Sample

/-- A patch makes the same of a document however often it is applied, and it leaves every document
as it is at a path where the two documents that it was found between agree, be it by having nothing
there. -/
theorem moved_on_documents_kept (a b live : Json.Document) :
    let patched := Json.patched (Json.diff? a b)
    patched (patched live) = patched live ∧
      ∀ path, Json.BothObjectsBefore path a b → Json.AgreeAt path a b →
        Json.valueAt? path (patched live) = Json.valueAt? path live :=
  ⟨Json.patched_diff?_again a.canonical b.canonical live.canonical,
    fun _ hobjects hagree => Json.valueAt?_patched a.canonical b.canonical hobjects hagree live⟩

open Sample in
/-- The label that others have set since stays, although the patch goes into the labels. What has
become of the specification does not matter. -/
theorem moved_on_documents_kept_labels :
    let patched := Json.patched (Json.diff? observedDocument desiredDocument)
    patched liveDocument ≠ liveDocument ∧ patched (patched liveDocument) = patched liveDocument ∧
      Json.BothObjectsBefore ["labels", "team"] observedDocument desiredDocument ∧
      Json.AgreeAt ["labels", "team"] observedDocument desiredDocument ∧
      Json.valueAt? ["labels", "team"] (patched liveDocument) = some (.string "payments") := by
  have hagree : Json.AgreeAt ["labels", "team"] observedDocument desiredDocument := .of_eq rfl
  obtain ⟨hagain, hkept⟩ := moved_on_documents_kept observedDocument desiredDocument liveDocument
  exact ⟨by decide, hagain, bothObjectsBefore_team, hagree, hkept _ bothObjectsBefore_team hagree⟩

end ServiceExposure
