import ServiceExposure.Shelf

/-! # Look-ups

What a look-up finds in entries that were joined, chosen, changed or inserted one after the other.
Entries and dictionaries are told apart by their look-ups alone, so these are all that later proofs
know about them. -/

namespace ServiceExposure

/-! ## Entry lists -/

namespace Entries

variable {κ α β : Type} [DecidableEq κ]

theorem get?_cons (key : κ) (e : κ × α) (entries : List (κ × α)) :
    get? key (e :: entries) = if e.1 = key then some e.2 else get? key entries := rfl

theorem get?_eq_none_iff {key : κ} {entries : List (κ × α)} :
    get? key entries = none ↔ ∀ e ∈ entries, e.1 ≠ key := by
  refine ⟨fun h => ?_, get?_eq_none_of_forall_ne⟩
  induction entries with
  | nil => simp
  | cons e entries ih =>
    rw [get?_cons] at h
    split at h
    · cases h
    · next hne => exact List.forall_mem_cons.2 ⟨hne, ih h⟩

theorem get?_append (key : κ) (xs ys : List (κ × α)) :
    get? key (xs ++ ys) = (get? key xs).or (get? key ys) := by
  induction xs with
  | nil => rfl
  | cons e xs ih =>
    simp only [List.cons_append, get?_cons, ih]
    split <;> rfl

theorem get?_map (key : κ) (f : κ → α → β) (entries : List (κ × α)) :
    get? key (entries.map fun e => (e.1, f e.1 e.2)) = (get? key entries).map (f key) := by
  induction entries with
  | nil => rfl
  | cons e entries ih =>
    simp only [List.map_cons, get?_cons, ih]
    split
    · next h => simp [h]
    · rfl

theorem get?_filter (key : κ) (p : κ → Bool) (entries : List (κ × α)) :
    get? key (entries.filter fun e => p e.1) = if p key then get? key entries else none := by
  induction entries with
  | nil => simp
  | cons e entries ih =>
    by_cases hk : e.1 = key
    · cases hp : p key <;> simp [get?_cons, hk, hp, ih]
    · cases hp : p e.1 <;> simp [get?_cons, hk, hp, ih]

theorem Ascending.tail [KeyOrder κ] {e : κ × α} {entries : List (κ × α)}
    (h : Ascending (e :: entries)) :
    Ascending entries :=
  (List.pairwise_cons.1 h).2

/-- The first key does not come again. -/
theorem Ascending.get?_head [KeyOrder κ] {e : κ × α} {entries : List (κ × α)}
    (h : Ascending (e :: entries)) :
    get? e.1 entries = none :=
  get?_eq_none_of_forall_ne fun _ hd => (before_ne ((List.pairwise_cons.1 h).1 _ hd)).symm

theorem Ascending.get?_of_mem [KeyOrder κ] {key : κ} {value : α} {entries : List (κ × α)}
    (h : Ascending entries) (hmem : (key, value) ∈ entries) : get? key entries = some value := by
  induction entries with
  | nil => simp at hmem
  | cons e entries ih =>
    rcases List.mem_cons.1 hmem with rfl | hmem
    · simp [get?_cons]
    · have hne : e.1 ≠ key := before_ne ((List.pairwise_cons.1 h).1 _ hmem)
      simp [get?_cons, hne, ih h.tail hmem]

/-- Where keys may come again, the last entry of a key is the one that stays. -/
theorem get?_foldl_insert [KeyOrder κ] (key : κ) (added entries : List (κ × α)) :
    get? key (added.foldl (fun es e => insert e.1 e.2 es) entries) =
      (get? key added.reverse).or (get? key entries) := by
  induction added generalizing entries with
  | nil => simp
  | cons e added ih =>
    simp only [List.foldl_cons, ih, List.reverse_cons, get?_append, get?_cons, get?_nil,
      Option.or_assoc]
    by_cases hk : e.1 = key
    · simp [hk]
    · simp [hk, get?_insert_of_ne hk]

theorem get?_reverse {key : κ} {entries : List (κ × α)} (h : (entries.map (·.1)).Nodup) :
    get? key entries.reverse = get? key entries := by
  induction entries with
  | nil => rfl
  | cons e entries ih =>
    obtain ⟨hhead, htail⟩ := List.nodup_cons.1 h
    simp only [List.reverse_cons, get?_append, ih htail, get?_cons, get?_nil]
    by_cases hk : e.1 = key
    · have hnone : get? key entries = none :=
        get?_eq_none_of_forall_ne fun d hd he => hhead (List.mem_map.2 ⟨d, hd, he.trans hk.symm⟩)
      simp [hk, hnone]
    · simp [hk]

theorem Ascending.nodup [KeyOrder κ] {entries : List (κ × α)} (h : Ascending entries) :
    (entries.map (·.1)).Nodup :=
  List.pairwise_map.2 (h.imp before_ne)

theorem Ascending.foldl_insert [KeyOrder κ] {entries : List (κ × α)} (h : Ascending entries)
    (added : List (κ × α)) :
    Ascending (added.foldl (fun es e => Entries.insert e.1 e.2 es) entries) := by
  induction added generalizing entries with
  | nil => exact h
  | cons e added ih => exact ih (h.insert e.1 e.2)

theorem mem_foldl_insert [KeyOrder κ] {e : κ × α} {added entries : List (κ × α)}
    (h : e ∈ added.foldl (fun es e => Entries.insert e.1 e.2 es) entries) :
    e ∈ added ∨ e ∈ entries := by
  induction added generalizing entries with
  | nil => exact .inr h
  | cons d added ih =>
    rcases ih h with h | h
    · simp [h]
    · rcases mem_insert h with rfl | h
      · simp
      · simp [h]

/-- Where all entries of a key have the same value, that value is found. -/
theorem get?_eq_some_of_forall {key : κ} {value : α} {entries : List (κ × α)}
    (hmem : ∃ e ∈ entries, e.1 = key) (h : ∀ e ∈ entries, e.1 = key → e.2 = value) :
    get? key entries = some value := by
  induction entries with
  | nil => simp at hmem
  | cons d entries ih =>
    by_cases hk : d.1 = key
    · simp [get?_cons, hk, h d (by simp) hk]
    · obtain ⟨e, he, hek⟩ := hmem
      have hrest : e ∈ entries := (List.mem_cons.1 he).resolve_left fun heq => hk (heq ▸ hek)
      simp [get?_cons, hk, ih ⟨e, hrest, hek⟩ fun e he => h e (by simp [he])]

end Entries

/-! ## Dictionaries -/

namespace Dict

variable {κ α β : Type} [DecidableEq κ] [KeyOrder κ]

theorem get?_of_mem {d : Dict κ α} {e : κ × α} (h : e ∈ d.toList) : d.get? e.1 = some e.2 :=
  d.ascending.get?_of_mem h

theorem mem_toList_iff {d : Dict κ α} {e : κ × α} : e ∈ d.toList ↔ d.get? e.1 = some e.2 :=
  ⟨get?_of_mem, Entries.mem_of_get?⟩

theorem get?_map (d : Dict κ α) (f : κ → α → β) (key : κ) :
    (d.map f).get? key = (d.get? key).map (f key) :=
  Entries.get?_map key f d.toList

theorem insert_comm (d : Dict κ α) {key other : κ} (hne : key ≠ other) (value value' : α) :
    (d.insert key value).insert other value' = (d.insert other value').insert key value := by
  refine ext_get? fun k => ?_
  by_cases hkey : key = k
  · subst hkey
    rw [get?_insert_of_ne _ hne.symm, get?_insert_self, get?_insert_self]
  · by_cases hother : other = k
    · subst hother
      rw [get?_insert_self, get?_insert_of_ne _ hne, get?_insert_self]
    · rw [get?_insert_of_ne _ hother, get?_insert_of_ne _ hkey, get?_insert_of_ne _ hkey,
        get?_insert_of_ne _ hother]

theorem toList_foldl_insert (added : List (κ × α)) (d : Dict κ α) :
    (added.foldl (fun d e => d.insert e.1 e.2) d).toList =
      added.foldl (fun es e => Entries.insert e.1 e.2 es) d.toList := by
  induction added generalizing d with
  | nil => rfl
  | cons e added ih => exact ih (d.insert e.1 e.2)

theorem get?_foldl_insert (added : List (κ × α)) (d : Dict κ α) (key : κ) :
    (added.foldl (fun d e => d.insert e.1 e.2) d).get? key =
      (Entries.get? key added.reverse).or (d.get? key) := by
  rw [get?, toList_foldl_insert, Entries.get?_foldl_insert]
  rfl

theorem get?_ofList (entries : List (κ × α)) (key : κ) :
    (ofList entries).get? key = Entries.get? key entries.reverse := by
  rw [ofList, get?_foldl_insert, get?_empty, Option.or_none]

/-- Where all that is put under a key is an edit of the value there, and the edit is put there if it
changes the value, a look-up finds the edit. -/
theorem get?_foldl_insert_edit {written : List α} {keyOf : α → κ} {edit : α → α} {key : κ}
    {d : Dict κ α}
    (hwritten : ∀ a ∈ written, keyOf a = key → ∃ old, d.get? key = some old ∧ edit old = a)
    (hall : ∀ old, d.get? key = some old → edit old = old ∨ ∃ a ∈ written, keyOf a = key) :
    (written.foldl (fun d a => d.insert (keyOf a) a) d).get? key = (d.get? key).map edit := by
  have hentries : (written.foldl (fun d a => d.insert (keyOf a) a) d).get? key =
      (Entries.get? key (written.map fun a => (keyOf a, a)).reverse).or (d.get? key) := by
    rw [← get?_foldl_insert, List.foldl_map]
  have hkey {e : κ × α} (he : e ∈ (written.map fun a => (keyOf a, a)).reverse) (hk : e.1 = key) :
      ∃ old, d.get? key = some old ∧ edit old = e.2 := by
    obtain ⟨a, ha, rfl⟩ := List.mem_map.1 (List.mem_reverse.1 he)
    exact hwritten a ha hk
  rw [hentries]
  cases hget : d.get? key with
  | none =>
    rw [Entries.get?_eq_none_of_forall_ne fun e he hk => ?_]
    · rfl
    · obtain ⟨old, hold, -⟩ := hkey he hk
      rw [hget] at hold
      cases hold
  | some old =>
    by_cases hex : ∃ e ∈ (written.map fun a => (keyOf a, a)).reverse, e.1 = key
    · rw [Entries.get?_eq_some_of_forall hex fun e he hk => ?_]
      · rfl
      · obtain ⟨old', hold', hedit⟩ := hkey he hk
        rw [hget] at hold'
        rw [Option.some.inj hold', hedit]
    · -- nothing is put there, so that the edit leaves the value as it is
      have hsame : edit old = old := (hall old hget).resolve_right fun ⟨a, ha, hk⟩ =>
        hex ⟨_, List.mem_reverse.2 (List.mem_map.2 ⟨a, ha, rfl⟩), hk⟩
      rw [Entries.get?_eq_none_of_forall_ne fun e he hk => hex ⟨e, he, hk⟩, Option.map_some, hsame]
      rfl

/-- Nothing is lost where entries in order are put together once more. -/
theorem ofList_toList (d : Dict κ α) : ofList d.toList = d :=
  ext_get? fun key => by rw [get?_ofList, Entries.get?_reverse d.ascending.nodup, get?]

end Dict

/-! ## Shelves -/

namespace Shelf

variable {α : Type} [Resource α]

theorem mem_toList_iff {shelf : Shelf α} {e : ObjectKey × α} :
    e ∈ shelf.toList ↔ shelf.get? e.1 = some e.2 := Dict.mem_toList_iff

theorem objects_putAll (shelf : Shelf α) (added : List α) : (shelf.putAll added).objects =
    added.foldl (fun objects object =>
      objects.insert (Resource.key object) object) shelf.objects := by
  induction added generalizing shelf with
  | nil => rfl
  | cons object added ih => exact ih (shelf.put object)

theorem get?_putAll (shelf : Shelf α) (added : List α) (key : ObjectKey) :
    (shelf.putAll added).get? key =
    (Entries.get? key (added.map fun object => (Resource.key object, object)).reverse).or
      (shelf.get? key) := by
  rw [get?, get?, objects_putAll, ← Dict.get?_foldl_insert, List.foldl_map]

theorem get?_ofList (objects : List α) (key : ObjectKey) : (ofList objects).get? key =
    Entries.get? key (objects.map fun object => (Resource.key object, object)).reverse := by
  rw [ofList, get?_putAll, get?_empty, Option.or_none]

theorem get?_foldl_erase {β : Type} (gone : List (ObjectKey × β)) (shelf : Shelf α)
    (key : ObjectKey) :
    (gone.foldl (fun shelf e => shelf.erase e.1) shelf).get? key =
      if key ∈ gone.map (·.1) then none else shelf.get? key := by
  induction gone generalizing shelf with
  | nil => simp
  | cons e gone ih =>
    simp only [List.foldl_cons, ih, get?_erase, List.map_cons, List.mem_cons]
    by_cases hkey : key = e.1
    · simp [hkey]
    · simp only [hkey, if_false, false_or]

end Shelf

end ServiceExposure
