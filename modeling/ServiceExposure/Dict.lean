/-! # Dictionaries

A `Dict κ α` maps keys to values and lists its entries in strictly ascending key order, each key
once. Two dictionaries with the same look-ups are therefore equal (`Dict.ext_get?`), and a walk
through the entries always meets them in the same order. -/

namespace ServiceExposure

/-- A strict total order on keys. -/
class KeyOrder (κ : Type) [DecidableEq κ] where
  before : κ → κ → Bool
  before_irrefl : ∀ a, before a a = false
  before_trans : ∀ {a b c}, before a b = true → before b c = true → before a c = true
  before_connex : ∀ {a b}, before a b = false → before b a = false → a = b

open KeyOrder (before)

/-- Strings are ordered by their code points. -/
instance : KeyOrder String where
  before a b := decide (a < b)
  before_irrefl a := decide_eq_false (String.lt_irrefl a)
  before_trans h₁ h₂ :=
    decide_eq_true (String.lt_trans (of_decide_eq_true h₁) (of_decide_eq_true h₂))
  before_connex h₁ h₂ := String.le_antisymm
    (String.not_lt.1 (of_decide_eq_false h₂)) (String.not_lt.1 (of_decide_eq_false h₁))

theorem before_ne {κ : Type} [DecidableEq κ] [KeyOrder κ] {a b : κ} (h : before a b = true) :
    a ≠ b := by
  rintro rfl
  simp [KeyOrder.before_irrefl] at h

theorem before_asymm {κ : Type} [DecidableEq κ] [KeyOrder κ] {a b : κ} (h : before a b = true) :
    before b a = false := by
  cases hb : before b a with
  | false => rfl
  | true => exact absurd (KeyOrder.before_trans h hb) (by simp [KeyOrder.before_irrefl])

/-! ## Entry lists -/

namespace Entries

variable {κ : Type} {α β : Type} [DecidableEq κ]

def get? (key : κ) : List (κ × α) → Option α
  | [] => none
  | (k, v) :: rest => if k = key then some v else get? key rest

def erase (key : κ) (entries : List (κ × α)) : List (κ × α) :=
  entries.filter fun e => e.1 ≠ key

/-- Puts an entry at its place among ascending entries; a previous entry of the key gives way. -/
def insert [KeyOrder κ] (key : κ) (value : α) : List (κ × α) → List (κ × α)
  | [] => [(key, value)]
  | (k, v) :: rest =>
    if before key k then (key, value) :: (k, v) :: rest
    else if key = k then (key, value) :: rest
    else (k, v) :: insert key value rest

/-- Each key stands before all keys that follow it. -/
def Ascending [KeyOrder κ] (entries : List (κ × α)) : Prop :=
  entries.Pairwise fun a b => before a.1 b.1 = true

instance [KeyOrder κ] (entries : List (κ × α)) : Decidable (Ascending entries) :=
  inferInstanceAs (Decidable (entries.Pairwise _))

@[simp] theorem get?_nil (key : κ) : get? key ([] : List (κ × α)) = none := rfl

theorem get?_eq_none_of_forall_ne {key : κ} {entries : List (κ × α)}
    (h : ∀ e ∈ entries, e.1 ≠ key) :
    get? key entries = none := by
  induction entries with
  | nil => rfl
  | cons e rest ih =>
    have hne : e.1 ≠ key := h e (by simp)
    simp [get?, hne, ih fun e' he => h e' (by simp [he])]

theorem mem_of_get? {key : κ} {value : α} {entries : List (κ × α)}
    (h : get? key entries = some value) :
    (key, value) ∈ entries := by
  induction entries with
  | nil => simp at h
  | cons e rest ih =>
    by_cases hk : e.1 = key
    · simp only [get?, hk, if_true, Option.some.injEq] at h
      simp [← h, ← hk]
    · simp only [get?, hk, if_false] at h
      simp [ih h]

@[simp] theorem get?_insert_self [KeyOrder κ] (key : κ) (value : α) (entries : List (κ × α)) :
    get? key (insert key value entries) = some value := by
  induction entries with
  | nil => simp [insert, get?]
  | cons e rest ih =>
    unfold insert
    split
    · simp [get?]
    · split
      · simp [get?]
      · next hne => simp [get?, Ne.symm hne, ih]

theorem get?_insert_of_ne [KeyOrder κ] {key other : κ} (h : key ≠ other) (value : α)
    (entries : List (κ × α)) :
    get? other (insert key value entries) = get? other entries := by
  induction entries with
  | nil => simp [insert, get?, h]
  | cons e rest ih =>
    unfold insert
    split
    · simp [get?, h]
    · split
      · next heq => simp [get?, ← heq, h]
      · simp [get?, ih]

@[simp] theorem get?_erase_self (key : κ) (entries : List (κ × α)) :
    get? key (erase key entries) = none :=
  get?_eq_none_of_forall_ne fun e he => by simpa [erase] using (List.mem_filter.1 he).2

theorem get?_erase_of_ne {key other : κ} (h : key ≠ other) (entries : List (κ × α)) :
    get? other (erase key entries) = get? other entries := by
  induction entries with
  | nil => rfl
  | cons e rest ih =>
    by_cases hk : e.1 = key
    · have hne : e.1 ≠ other := hk ▸ h
      simpa [erase, hk, get?, h] using ih
    · have : erase key (e :: rest) = e :: erase key rest := by simp [erase, hk]
      simp [this, get?, ih]

theorem mem_insert [KeyOrder κ] {key : κ} {value : α} {e : κ × α} {entries : List (κ × α)}
    (h : e ∈ insert key value entries) : e = (key, value) ∨ e ∈ entries := by
  induction entries with
  | nil => simpa [insert] using h
  | cons d rest ih =>
    unfold insert at h
    split at h
    · simpa using h
    · split at h
      · rcases List.mem_cons.1 h with h | h <;> simp [h]
      · rcases List.mem_cons.1 h with h | h
        · simp [h]
        · rcases ih h with h | h <;> simp [h]

theorem ascending_nil [KeyOrder κ] : Ascending ([] : List (κ × α)) := List.Pairwise.nil

theorem Ascending.insert [KeyOrder κ] {entries : List (κ × α)} (h : Ascending entries) (key : κ)
    (value : α) :
    Ascending (insert key value entries) := by
  induction entries with
  | nil => simp [Entries.insert, Ascending]
  | cons e rest ih =>
    obtain ⟨hhead, htail⟩ := List.pairwise_cons.1 h
    unfold Entries.insert
    split
    · next hlt =>
      refine List.pairwise_cons.2 ⟨fun d hd => ?_, h⟩
      rcases List.mem_cons.1 hd with rfl | hd
      · exact hlt
      · exact KeyOrder.before_trans hlt (hhead d hd)
    · split
      · next heq => exact List.pairwise_cons.2 ⟨fun d hd => by simpa [heq] using hhead d hd, htail⟩
      · next hnlt hne =>
        refine List.pairwise_cons.2 ⟨fun d hd => ?_, ih htail⟩
        rcases mem_insert hd with rfl | hd
        · cases hb : before e.1 key with
          | true => rfl
          | false => exact absurd (KeyOrder.before_connex (by simpa using hnlt) hb) hne
        · exact hhead d hd

theorem Ascending.erase [KeyOrder κ] {entries : List (κ × α)} (h : Ascending entries) (key : κ) :
    Ascending (erase key entries) :=
  List.Pairwise.filter _ h

theorem Ascending.map [KeyOrder κ] {entries : List (κ × α)} (h : Ascending entries)
    (f : κ → α → β) :
    Ascending (entries.map fun e => (e.1, f e.1 e.2)) :=
  List.pairwise_map.2 h

/-- Ascending entries are determined by their look-ups. -/
theorem Ascending.ext [KeyOrder κ] {xs ys : List (κ × α)} (hx : Ascending xs) (hy : Ascending ys)
    (h : ∀ key, get? key xs = get? key ys) : xs = ys := by
  induction xs generalizing ys with
  | nil =>
    cases ys with
    | nil => rfl
    | cons y ys => simpa [get?] using h y.1
  | cons x xs ih =>
    cases ys with
    | nil => simpa [get?] using h x.1
    | cons y ys =>
      obtain ⟨hx₁, hx₂⟩ := List.pairwise_cons.1 hx
      obtain ⟨hy₁, hy₂⟩ := List.pairwise_cons.1 hy
      have hkey : x.1 = y.1 := by
        refine Decidable.byContradiction fun hne => ?_
        have h₁ := h x.1
        have h₂ := h y.1
        simp only [get?, if_true, hne, Ne.symm hne, if_false] at h₁ h₂
        have hyx := hy₁ _ (mem_of_get? h₁.symm)
        have hxy := hx₁ _ (mem_of_get? h₂)
        simp [before_asymm hyx] at hxy
      have hval : x.2 = y.2 := by simpa [get?, hkey] using h x.1
      have hrest : xs = ys := by
        refine ih hx₂ hy₂ fun key => ?_
        by_cases hk : x.1 = key
        · rw [get?_eq_none_of_forall_ne fun e he => hk ▸ Ne.symm (before_ne (hx₁ e he)),
            get?_eq_none_of_forall_ne fun e he => hk ▸ hkey ▸ Ne.symm (before_ne (hy₁ e he))]
        · have hk' : y.1 ≠ key := hkey ▸ hk
          simpa [get?, hk, hk'] using h key
      rw [hrest, show x = y from Prod.ext hkey hval]

end Entries

/-! ## Dictionaries -/

structure Dict (κ : Type) [DecidableEq κ] [KeyOrder κ] (α : Type) where
  toList : List (κ × α)
  ascending : Entries.Ascending toList

namespace Dict

variable {κ : Type} [DecidableEq κ] [KeyOrder κ] {α β : Type}

instance [DecidableEq α] : DecidableEq (Dict κ α) := fun a b =>
  decidable_of_iff (a.toList = b.toList) ⟨fun h => by cases a; cases b; cases h; rfl,
    fun h => h ▸ rfl⟩

instance [Repr κ] [Repr α] : Repr (Dict κ α) := ⟨fun d => reprPrec d.toList⟩

protected def empty : Dict κ α := ⟨[], Entries.ascending_nil⟩

instance : EmptyCollection (Dict κ α) := ⟨Dict.empty⟩
instance : Inhabited (Dict κ α) := ⟨∅⟩

def get? (d : Dict κ α) (key : κ) : Option α := Entries.get? key d.toList

def contains (d : Dict κ α) (key : κ) : Bool := (d.get? key).isSome

def insert (d : Dict κ α) (key : κ) (value : α) : Dict κ α :=
  ⟨Entries.insert key value d.toList, d.ascending.insert key value⟩

/-- Keeps an entry that is already there. -/
def insertIfAbsent (d : Dict κ α) (key : κ) (value : α) : Dict κ α :=
  if d.contains key then d else d.insert key value

def erase (d : Dict κ α) (key : κ) : Dict κ α :=
  ⟨Entries.erase key d.toList, d.ascending.erase key⟩

/-- A later entry of a key replaces an earlier one. -/
def ofList (entries : List (κ × α)) : Dict κ α :=
  entries.foldl (fun d e => d.insert e.1 e.2) ∅

def values (d : Dict κ α) : List α := d.toList.map (·.2)

def isEmpty (d : Dict κ α) : Bool := d.toList.isEmpty

def map (f : κ → α → β) (d : Dict κ α) : Dict κ β :=
  ⟨d.toList.map fun e => (e.1, f e.1 e.2), d.ascending.map f⟩

@[simp] theorem get?_empty (key : κ) : (∅ : Dict κ α).get? key = none := rfl

@[simp] theorem get?_insert_self (d : Dict κ α) (key : κ) (value : α) :
    (d.insert key value).get? key = some value :=
  Entries.get?_insert_self key value d.toList

theorem get?_insert_of_ne (d : Dict κ α) {key other : κ} (h : key ≠ other) (value : α) :
    (d.insert key value).get? other = d.get? other :=
  Entries.get?_insert_of_ne h value d.toList

@[simp] theorem get?_erase_self (d : Dict κ α) (key : κ) : (d.erase key).get? key = none :=
  Entries.get?_erase_self key d.toList

theorem get?_erase_of_ne (d : Dict κ α) {key other : κ} (h : key ≠ other) :
    (d.erase key).get? other = d.get? other :=
  Entries.get?_erase_of_ne h d.toList

theorem get?_erase (d : Dict κ α) (key other : κ) :
    (d.erase key).get? other = if other = key then none else d.get? other := by
  by_cases h : other = key
  · rw [if_pos h, h, get?_erase_self]
  · rw [if_neg h, d.get?_erase_of_ne (Ne.symm h)]

theorem ext_get? {d e : Dict κ α} (h : ∀ key, d.get? key = e.get? key) : d = e := by
  cases d with
  | mk xs hx =>
    cases e with
    | mk ys hy => cases Entries.Ascending.ext hx hy h; rfl

theorem insert_of_get? {d : Dict κ α} {key : κ} {value : α} (h : d.get? key = some value) :
    d.insert key value = d :=
  ext_get? fun other => by
    by_cases hk : key = other
    · subst hk; simp [h]
    · exact d.get?_insert_of_ne hk value

end Dict

end ServiceExposure
