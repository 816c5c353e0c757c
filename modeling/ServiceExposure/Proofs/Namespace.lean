import ServiceExposure.Proofs.Delivery

/-! # Objects of a namespace

What a snapshot shows of a shelf, and what becomes of the shelf when the objects that an edit
changes are written back: the same as if the edit were made on all objects of the namespace in
place. -/

namespace ServiceExposure

namespace Shelf

variable {α : Type} [Resource α] {shelf : Shelf α} {ns : String} {object : α}

theorem mem_inNamespace :
    object ∈ shelf.inNamespace ns ↔ ∃ name, shelf.get? ⟨ns, name⟩ = some object := by
  simp only [inNamespace, List.mem_map, List.mem_filter, decide_eq_true_eq]
  constructor
  · rintro ⟨⟨key, object⟩, ⟨hmem, rfl⟩, rfl⟩
    exact ⟨key.name, mem_toList_iff.1 hmem⟩
  · rintro ⟨name, hget⟩
    exact ⟨(⟨ns, name⟩, object), ⟨mem_toList_iff.2 hget, rfl⟩, rfl⟩

theorem displayName_of_get? {name : String} (h : shelf.get? ⟨ns, name⟩ = some object) :
    Resource.displayName object = name := congrArg ObjectKey.name (key_of_get? h)

/-- A snapshot shows under each name the object of that name. -/
theorem get?_byName (shelf : Shelf α) (ns name : String) :
    (Resource.byName (shelf.inNamespace ns)).get? name = shelf.get? ⟨ns, name⟩ := by
  rw [Resource.byName, Dict.get?_ofList]
  cases hget : shelf.get? ⟨ns, name⟩ with
  | some object =>
    -- no other object of the namespace has this name, as each lies under its own key
    refine Entries.get?_eq_some_of_forall ⟨(name, object), ?_, rfl⟩ ?_
    · exact List.mem_reverse.2 (List.mem_map.2
        ⟨object, mem_inNamespace.2 ⟨name, hget⟩, by rw [displayName_of_get? hget]⟩)
    · intro e he hk
      obtain ⟨other, hother, rfl⟩ := List.mem_map.1 (List.mem_reverse.1 he)
      obtain ⟨otherName, hget'⟩ := mem_inNamespace.1 hother
      obtain rfl : otherName = name := (displayName_of_get? hget').symm.trans hk
      exact Option.some.inj (hget'.symm.trans hget)
  | none =>
    refine Entries.get?_eq_none_of_forall_ne fun e he hk => ?_
    obtain ⟨other, hother, rfl⟩ := List.mem_map.1 (List.mem_reverse.1 he)
    obtain ⟨otherName, hget'⟩ := mem_inNamespace.1 hother
    obtain rfl : otherName = name := (displayName_of_get? hget').symm.trans hk
    rw [hget] at hget'
    cases hget'

/-- The objects of a namespace after an edit that leaves their keys alone. -/
def edited (shelf : Shelf α) (ns : String) (edit : String → α → α)
    (hkeeps : ∀ name object, Resource.key (edit name object) = Resource.key object) : Shelf α where
  objects := shelf.objects.map fun key object =>
    if key.inNamespace = ns then edit key.name object else object
  filed key object h := by
    rw [Dict.get?_map] at h
    obtain ⟨old, hold, rfl⟩ := Option.map_eq_some_iff.1 h
    have hkey : Resource.key old = key := key_of_get? hold
    split
    · exact (hkeeps _ _).trans hkey
    · exact hkey

theorem get?_edited {edit : String → α → α}
    (hkeeps : ∀ name object, Resource.key (edit name object) = Resource.key object)
    (key : ObjectKey) :
    (shelf.edited ns edit hkeeps).get? key =
      (shelf.get? key).map fun object =>
        if key.inNamespace = ns then edit key.name object
        else object :=
  Dict.get?_map shelf.objects _ key

/-- Writes back what an edit changes. -/
theorem putAll_eq_edited {edit : String → α → α}
    (hkeeps : ∀ name object, Resource.key (edit name object) = Resource.key object)
    {written : List α}
    (hwritten : ∀ object ∈ written, ∃ name old, shelf.get? ⟨ns, name⟩ = some old ∧
      edit name old = object)
    (hall : ∀ name old, shelf.get? ⟨ns, name⟩ = some old →
      edit name old = old ∨ edit name old ∈ written) :
    shelf.putAll written = shelf.edited ns edit hkeeps := by
  refine ext_get? fun key => ?_
  rw [get?_edited, get?, objects_putAll]
  refine Dict.get?_foldl_insert_edit (fun object hobject hk => ?_) fun old hold => ?_
  · obtain ⟨name, old, hget, rfl⟩ := hwritten object hobject
    obtain rfl : ⟨ns, name⟩ = key := by rw [← hk, hkeeps, key_of_get? hget]
    exact ⟨old, hget, if_pos rfl⟩
  · -- an object that is not written is outside the namespace, or the edit leaves it
    by_cases hns : key.inNamespace = ns
    · subst hns
      rw [if_pos rfl]
      exact (hall key.name old hold).imp_right fun hmem =>
        ⟨_, hmem, (hkeeps _ _).trans (key_of_get? hold)⟩
    · exact .inl (if_neg hns)

end Shelf

end ServiceExposure
