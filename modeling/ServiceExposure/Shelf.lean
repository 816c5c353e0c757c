import ServiceExposure.Kube.Metadata

/-! # Shelves

A shelf holds objects by key, each under its own. It is put together from objects alone, so nothing
lies where it does not belong (`Shelf.key_of_get?`), and the name that an object is found under is
the one that it has. -/

namespace ServiceExposure

structure Shelf (α : Type) [Resource α] where
  objects : Dict ObjectKey α
  filed : ∀ key object, objects.get? key = some object → Resource.key object = key

namespace Shelf

variable {α : Type} [Resource α]

instance [DecidableEq α] : DecidableEq (Shelf α) := fun a b =>
  decidable_of_iff (a.objects = b.objects) ⟨fun h => by cases a; cases b; cases h; rfl,
    fun h => h ▸ rfl⟩

instance [Repr α] : Repr (Shelf α) := ⟨fun shelf => reprPrec shelf.objects⟩

protected def empty : Shelf α := ⟨∅, nofun⟩

instance : EmptyCollection (Shelf α) := ⟨Shelf.empty⟩
instance : Inhabited (Shelf α) := ⟨∅⟩

def get? (shelf : Shelf α) (key : ObjectKey) : Option α := shelf.objects.get? key

def contains (shelf : Shelf α) (key : ObjectKey) : Bool := shelf.objects.contains key

/-- The objects with their keys, in the order of these. -/
def toList (shelf : Shelf α) : List (ObjectKey × α) := shelf.objects.toList

/-- Puts an object in its place; one that has been there gives way. -/
def put (shelf : Shelf α) (object : α) : Shelf α where
  objects := shelf.objects.insert (Resource.key object) object
  filed key other hother := by
    by_cases hkey : Resource.key object = key
    · subst hkey
      rw [Dict.get?_insert_self] at hother
      rw [← Option.some.inj hother]
    · rw [Dict.get?_insert_of_ne _ hkey] at hother
      exact shelf.filed key other hother

def erase (shelf : Shelf α) (key : ObjectKey) : Shelf α where
  objects := shelf.objects.erase key
  filed other object hobject := by
    rw [Dict.get?_erase] at hobject
    split at hobject
    · cases hobject
    · exact shelf.filed other object hobject

/-- The objects of a namespace, by name. -/
def inNamespace (shelf : Shelf α) (ns : String) : List α :=
  (shelf.toList.filter fun e => e.1.inNamespace = ns).map (·.2)

/-- Puts objects in their places one after the other. -/
def putAll (shelf : Shelf α) (objects : List α) : Shelf α := objects.foldl put shelf

/-- A later object replaces an earlier one of the same key. -/
def ofList (objects : List α) : Shelf α := putAll ∅ objects

/-- What lies in a dictionary is filed anew, each object under its own key. -/
instance : Coe (Dict ObjectKey α) (Shelf α) := ⟨fun objects => ofList objects.values⟩

variable {shelf other : Shelf α} {key : ObjectKey} {object : α}

theorem key_of_get? (h : shelf.get? key = some object) : Resource.key object = key :=
  shelf.filed key object h

@[simp] theorem get?_empty (key : ObjectKey) : (∅ : Shelf α).get? key = none := rfl

@[simp] theorem get?_put_self (shelf : Shelf α) (object : α) :
    (shelf.put object).get? (Resource.key object) = some object :=
  Dict.get?_insert_self shelf.objects _ object

theorem get?_put_of_ne (shelf : Shelf α) (h : Resource.key object ≠ key) :
    (shelf.put object).get? key = shelf.get? key :=
  Dict.get?_insert_of_ne shelf.objects h object

theorem get?_put_of_eq (shelf : Shelf α) (h : Resource.key object = key) :
    (shelf.put object).get? key = some object :=
  h ▸ shelf.get?_put_self object

@[simp] theorem get?_erase_self (shelf : Shelf α) (key : ObjectKey) :
    (shelf.erase key).get? key = none :=
  Dict.get?_erase_self shelf.objects key

theorem get?_erase_of_ne (shelf : Shelf α) {key other : ObjectKey} (h : key ≠ other) :
    (shelf.erase key).get? other = shelf.get? other :=
  Dict.get?_erase_of_ne shelf.objects h

theorem get?_erase (shelf : Shelf α) (key other : ObjectKey) :
    (shelf.erase key).get? other = if other = key then none else shelf.get? other :=
  Dict.get?_erase shelf.objects key other

theorem ext_get? (h : ∀ key, shelf.get? key = other.get? key) : shelf = other := by
  have hobjects : shelf.objects = other.objects := Dict.ext_get? h
  cases shelf
  cases other
  cases hobjects
  rfl

theorem put_of_get? (h : shelf.get? (Resource.key object) = some object) :
    shelf.put object = shelf := by
  refine ext_get? fun key => ?_
  by_cases hkey : Resource.key object = key
  · rw [← hkey, get?_put_self, h]
  · exact shelf.get?_put_of_ne hkey

end Shelf

end ServiceExposure
