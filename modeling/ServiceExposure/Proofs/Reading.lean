import ServiceExposure.Json.Parser
import ServiceExposure.Proofs.Encoding

/-! # Documents that are read are canonical

Whatever order the members of an object are written in, they are read in the order of their keys.
Laws of canonical documents are therefore laws of all documents that come from outside. -/

namespace ServiceExposure.Json

theorem canonical_ofMembers {members : Members} (h : ∀ m ∈ members, Canonical m.2) :
    Canonical (ofMembers members) :=
  canonical_object.2 ⟨ascending_ofMembers members, fun m hm => h m (mem_ofMembers hm)⟩

/-! ## Numbers and literals -/

theorem canonical_float? {t : NumberText} {word : Nat} {exponent : Int} {j : Json}
    (h : NumberText.value?.float t word exponent = some j) : Canonical j := by
  simp only [NumberText.value?.float, Option.bind_eq_bind, Option.pure_def, Option.bind_eq_some_iff,
    Option.some.injEq] at h
  obtain ⟨_, -, _, -, rfl⟩ := h
  simp [Canonical]

theorem canonical_numberText? {t : NumberText} {j : Json} (h : t.value? = some j) :
    Canonical j := by
  simp only [NumberText.value?] at h
  split at h
  · split at h
    · cases h
      simp [Canonical]
    · split at h
      · cases h
        simp [Canonical]
      · exact canonical_float? h
  · split at h
    · exact canonical_float? h
    · split at h
      · cases h
      · exact canonical_float? h

theorem canonical_number? {cs rest : Input} {j : Json} (h : number? cs = some (j, rest)) :
    Canonical j := by
  simp only [number?, Option.bind_eq_bind, Option.pure_def, Option.bind_eq_some_iff,
    Option.some.injEq, Prod.mk.injEq] at h
  obtain ⟨_, -, _, -, _, -, j', hj', rfl, -⟩ := h
  exact canonical_numberText? hj'

theorem eq_of_literal? {word : String} {value j : Json} {cs rest : Input}
    (h : literal? word value cs = some (j, rest)) : j = value := by
  simp only [literal?] at h
  split at h
  · simp_all
  · cases h

/-! ## Values, items and members -/

/-- Whether all that a reader gives has a property. -/
def ReadsOnly {α : Type} (P : α → Prop) (read : Nat → Input → Option (α × Input)) : Prop :=
  ∀ depth cs a rest, read depth cs = some (a, rest) → P a

section

variable {fuel : Nat}

/-- Strings, arrays, objects, literals and numbers are told from the first character. -/
theorem readsOnly_value? (hitems : ReadsOnly (∀ j ∈ ·, Canonical j) (items? fuel))
    (hmembers : ReadsOnly (∀ m ∈ ·, Canonical m.2) (members? fuel)) :
    ReadsOnly Canonical (value? (fuel + 1)) := by
  intro depth cs j rest h
  simp only [value?] at h
  split at h
  · obtain ⟨p, -, hp⟩ := Option.map_eq_some_iff.1 h
    simp only [Prod.mk.injEq] at hp
    simp [← hp.1, Canonical]
  · split at h
    · cases h
    · split at h
      · cases h
        simp
      · obtain ⟨p, hp, heq⟩ := Option.map_eq_some_iff.1 h
        simp only [Prod.mk.injEq] at heq
        exact heq.1 ▸ canonical_array.2 (hitems _ _ _ _ hp)
  · split at h
    · cases h
    · split at h
      · cases h
        simp [Entries.ascending_nil]
      · obtain ⟨p, hp, heq⟩ := Option.map_eq_some_iff.1 h
        simp only [Prod.mk.injEq] at heq
        exact heq.1 ▸ canonical_ofMembers (hmembers _ _ _ _ hp)
  · simp [eq_of_literal? h, Canonical]
  · simp [eq_of_literal? h, Canonical]
  · simp [eq_of_literal? h, Canonical]
  · exact canonical_number? h

theorem readsOnly_items? (hvalue : ReadsOnly Canonical (value? fuel))
    (hitems : ReadsOnly (∀ j ∈ ·, Canonical j) (items? fuel)) :
    ReadsOnly (∀ j ∈ ·, Canonical j) (items? (fuel + 1)) := by
  intro depth cs items rest h
  simp only [items?, Option.bind_eq_bind, Option.pure_def, Option.bind_eq_some_iff] at h
  obtain ⟨⟨item, rest'⟩, hitem, h⟩ := h
  have hone : Canonical item := hvalue _ _ _ _ hitem
  split at h
  · simp only [Option.bind_eq_some_iff, Option.some.injEq, Prod.mk.injEq] at h
    obtain ⟨more, hmore, rfl, -⟩ := h
    exact List.forall_mem_cons.2 ⟨hone, hitems _ _ _ _ hmore⟩
  · cases h
    exact List.forall_mem_singleton.2 hone
  · cases h

theorem readsOnly_members? (hvalue : ReadsOnly Canonical (value? fuel))
    (hmembers : ReadsOnly (∀ m ∈ ·, Canonical m.2) (members? fuel)) :
    ReadsOnly (∀ m ∈ ·, Canonical m.2) (members? (fuel + 1)) := by
  intro depth cs members rest h
  simp only [members?, Option.bind_eq_bind, Option.pure_def] at h
  split at h
  · obtain ⟨⟨key, rest'⟩, -, h⟩ := Option.bind_eq_some_iff.1 h
    split at h
    · obtain ⟨⟨value, rest''⟩, hvalued, h⟩ := Option.bind_eq_some_iff.1 h
      have hone : Canonical value := hvalue _ _ _ _ hvalued
      split at h
      · simp only [Option.bind_eq_some_iff, Option.some.injEq, Prod.mk.injEq] at h
        obtain ⟨more, hmore, rfl, -⟩ := h
        exact List.forall_mem_cons.2 ⟨hone, hmembers _ _ _ _ hmore⟩
      · cases h
        exact List.forall_mem_singleton.2 hone
      · cases h
    · cases h
  · cases h

end

/-- By induction on the fuel, for values, items and members at once. -/
theorem canonical_value? (fuel : Nat) : ReadsOnly Canonical (value? fuel) ∧
    ReadsOnly (∀ j ∈ ·, Canonical j) (items? fuel) ∧
    ReadsOnly (∀ m ∈ ·, Canonical m.2) (members? fuel) := by
  induction fuel with
  | zero => simp [ReadsOnly, value?, items?, members?]
  | succ fuel ih =>
    obtain ⟨hvalue, hitems, hmembers⟩ := ih
    exact ⟨readsOnly_value? hitems hmembers, readsOnly_items? hvalue hitems,
      readsOnly_members? hvalue hmembers⟩

/-- Documents that are read list the members of each object in order. -/
theorem canonical_parse? {s : String} {j : Json} (h : parse? s = some j) : j.Canonical := by
  simp only [parse?] at h
  split at h
  · next hvalue =>
    split at h
    · cases h
      exact (canonical_value? _).1 _ _ _ _ hvalue
    · cases h
  · cases h

/-- The document that a text is read as. -/
def Document.parse? (s : String) : Option Document :=
  match h : Json.parse? s with
  | none => none
  | some j => some ⟨j, canonical_parse? h⟩

/-- Nothing that can be read is lost by asking for its order. -/
theorem Document.parse?_eq_some_iff {s : String} {document : Document} :
    Document.parse? s = some document ↔ Json.parse? s = some document.json := by
  rw [Document.parse?]
  split
  · next hnone => simp [hnone]
  · next j hsome => simp [hsome, Document.ext_iff]

end ServiceExposure.Json
