import ServiceExposure.Proofs.Delivery
import ServiceExposure.Watch.Tracker

/-! # Notifications tell what is tracked

Whoever hears of services by the notifications of a tracker alone knows the services that the
tracker knows, after any events in any order. A notification of a new service names one that was not
known, and one of a change has the service as it was known. When all services are listed anew, those
that are not listed are reported as gone, each once. -/

namespace ServiceExposure

/-! ## What notifications tell -/

namespace Notification

/-- What is known of services after a notification. -/
def note (known : Shelf Service) : Notification → Shelf Service
  | added s | updated _ s => known.put s
  | deleted s => known.erase s.key

/-- Whether a notification fits what was known before it. -/
def Fits (known : Shelf Service) : Notification → Prop
  | added s => known.get? s.key = none
  | updated old new => known.get? new.key = some old
  | deleted _ => True

/-- Whether each notification fits what was known after those before it. -/
def AllFit (known : Shelf Service) : List Notification → Prop
  | [] => True
  | n :: ns => n.Fits known ∧ AllFit (n.note known) ns

theorem allFit_append {known : Shelf Service} {ns more : List Notification} :
    AllFit known (ns ++ more) ↔ AllFit known ns ∧ AllFit (ns.foldl note known) more := by
  induction ns generalizing known with
  | nil => simp [AllFit]
  | cons n ns ih => simp only [List.cons_append, AllFit, List.foldl_cons, ih, and_assoc]

/-- That services are gone fits whatever is known. -/
theorem allFit_deleted (known : Shelf Service) (gone : List (ObjectKey × Service)) :
    AllFit known (gone.map fun e => deleted e.2) := by
  induction gone generalizing known with
  | nil => trivial
  | cons e gone ih => exact ⟨trivial, ih _⟩

end Notification

/-! ## One event -/

/-- Notifications that fit the services that were remembered before them, and tell those that are
remembered after. -/
structure Notification.Tell (ns : List Notification) (before after : Shelf Service) : Prop where
  fit : AllFit before ns
  notes : ns.foldl note before = after

namespace Tracker

open Notification

variable {t : Tracker}

theorem tell_observe (t : Tracker) (s : Service) :
    Tell (t.observe s).1 t.services (t.observe s).2.services where
  fit := by
    simp only [observe, AllFit, and_true]
    split
    · next old hold => exact hold
    · next hnone => exact hnone
  notes := by
    simp only [observe, List.foldl_cons, List.foldl_nil]
    split <;> rfl

/-- Entries that lie under the keys of their services go with the services. -/
theorem foldl_note_deleted {gone : List (ObjectKey × Service)} (h : ∀ e ∈ gone, e.2.key = e.1)
    (known : Shelf Service) :
    (gone.map fun e => deleted e.2).foldl note known =
      gone.foldl (fun services e => services.erase e.1) known := by
  induction gone generalizing known with
  | nil => rfl
  | cons e gone ih =>
    have hkey : e.2.key = e.1 := h e List.mem_cons_self
    simp only [List.map_cons, List.foldl_cons, note, hkey]
    exact ih (fun d hd => h d (List.mem_cons_of_mem e hd)) _

theorem tell_finishList (t : Tracker) (relisted : List ObjectKey) :
    Tell (t.finishList relisted).1 t.services (t.finishList relisted).2.services where
  fit := allFit_deleted _ _
  notes :=
    foldl_note_deleted (fun _ he =>
      Shelf.key_of_get? (Shelf.mem_toList_iff.1 (List.mem_filter.1 he).1)) _

theorem tell_process (t : Tracker) (event : WatchEvent) :
    Tell (t.process event).1 t.services (t.process event).2.services := by
  cases event with
  | init => exact ⟨trivial, rfl⟩
  -- which services have been listed has no bearing on what is told of one that is seen
  | initApply s => exact tell_observe { t with relisted := t.relisted.map (s.key :: ·) } s
  | apply s => exact t.tell_observe s
  | delete s => exact ⟨⟨trivial, trivial⟩, rfl⟩
  | initDone =>
    simp only [process]
    split
    · exact ⟨trivial, rfl⟩
    · exact t.tell_finishList _

/-! ## Runs of events -/

/-- The notifications of a run of events, and the tracker after it. -/
def processAll (t : Tracker) : List WatchEvent → List Notification × Tracker
  | [] => ([], t)
  | event :: events =>
    let (ns, next) := t.process event
    let (later, last) := next.processAll events
    (ns ++ later, last)

theorem tell_processAll (t : Tracker) (events : List WatchEvent) :
    Tell (t.processAll events).1 t.services (t.processAll events).2.services := by
  -- on the events; the services known after the first are those that the tracker goes on with
  induction events generalizing t with
  | nil => exact ⟨trivial, rfl⟩
  | cons event events ih =>
    obtain ⟨hfit, hnotes⟩ := t.tell_process event
    obtain ⟨hlater, hlast⟩ := ih (t.process event).2
    rw [← hnotes] at hlater hlast
    exact ⟨allFit_append.2 ⟨hfit, hlater⟩, List.foldl_append.trans hlast⟩

/-! ## Listing anew -/

/-- The services that are remembered after others have been listed on top of them. -/
theorem processAll_initApply (t : Tracker) (listed : List Service) (relisted : List ObjectKey) :
    ({ t with relisted := some relisted }.processAll (listed.map .initApply)).2 =
      { services := t.services.putAll listed
        relisted := some ((listed.map Service.key).reverse ++ relisted) } := by
  induction listed generalizing t relisted with
  | nil => rfl
  | cons s listed ih =>
    have hnext := ih { t with services := t.services.put s } (s.key :: relisted)
    simp only [List.map_cons, processAll, process, observe, Option.map_some, List.reverse_cons,
      List.append_assoc, List.singleton_append]
    exact hnext

/-- The tracker after all services have been listed anew, up to the end of the list. -/
def listing (t : Tracker) (listed : List Service) : Tracker :=
  (t.processAll (.init :: listed.map .initApply)).2

theorem listing_eq (t : Tracker) (listed : List Service) : t.listing listed =
    { services := t.services.putAll listed
      relisted := some (listed.map Service.key).reverse } := by
  have h := processAll_initApply t listed []
  rwa [List.append_nil] at h

/-- The services of a list by key, each as it was listed last. -/
def lastListed (listed : List Service) : Shelf Service := .ofList listed

theorem get?_lastListed_eq_none_iff {listed : List Service} {key : ObjectKey} :
    (lastListed listed).get? key = none ↔ ∀ s ∈ listed, s.key ≠ key := by
  simp only [lastListed, Shelf.get?_ofList, Entries.get?_eq_none_iff, List.mem_reverse,
    List.forall_mem_map]
  rfl

theorem get?_services_listing (t : Tracker) (listed : List Service) (key : ObjectKey) :
    (t.listing listed).services.get? key =
      ((lastListed listed).get? key).or (t.services.get? key) := by
  rw [listing_eq, Shelf.get?_putAll, lastListed, Shelf.get?_ofList]

/-- The end of a list tells of the services that are remembered and have not been listed. -/
theorem mem_finishList {relisted : List ObjectKey} {n : Notification} :
    n ∈ (t.finishList relisted).1 ↔
    ∃ key s, t.services.get? key = some s ∧ key ∉ relisted ∧ n = .deleted s := by
  simp only [finishList, List.mem_map, List.mem_filter, Prod.exists, Shelf.mem_toList_iff,
    Bool.not_eq_true', List.contains_eq_mem, decide_eq_false_iff_not]
  refine exists_congr fun key => exists_congr fun s => ?_
  rw [and_assoc, eq_comm (a := n)]

/-- It does so once for each. -/
theorem nodup_finishList (t : Tracker) (relisted : List ObjectKey) :
    ((t.finishList relisted).1.map (·.service.key)).Nodup := by
  have hkeys : (t.finishList relisted).1.map (·.service.key) =
      (t.services.toList.filter fun e => !relisted.contains e.1).map (·.1) := by
    rw [finishList, List.map_map]
    exact List.map_congr_left fun e he =>
      Shelf.key_of_get? (Shelf.mem_toList_iff.1 (List.mem_filter.1 he).1)
  rw [hkeys]
  exact t.services.objects.ascending.nodup.sublist (List.filter_sublist.map _)

theorem get?_services_finishList (relisted : List ObjectKey) (key : ObjectKey) :
    (t.finishList relisted).2.services.get? key =
      if key ∈ relisted then t.services.get? key else none := by
  have hgone : key ∈ (t.services.toList.filter fun e => !relisted.contains e.1).map (·.1) ↔
      (∃ s, t.services.get? key = some s) ∧ key ∉ relisted := by
    simp only [List.mem_map, List.mem_filter, Prod.exists, exists_and_right, exists_eq_right,
      Shelf.mem_toList_iff, Bool.not_eq_true', List.contains_eq_mem, decide_eq_false_iff_not]
  refine (Shelf.get?_foldl_erase _ _ _).trans ?_
  split
  · next hmem => rw [if_neg (hgone.1 hmem).2]
  · next hnot =>
    split
    · rfl
    · next hkey =>
      exact Option.eq_none_iff_forall_ne_some.2 fun s hs => hnot (hgone.2 ⟨⟨s, hs⟩, hkey⟩)

/-- What the end of a list tells after services have been listed anew, and what is remembered
then. -/
theorem finish_listing (t : Tracker) (listed : List Service) :
    let (done, after) := (t.listing listed).process .initDone
    (done.map (·.service.key)).Nodup ∧
      (∀ n, n ∈ done ↔ ∃ s, n = .deleted s ∧ t.services.get? s.key = some s ∧
        ∀ s' ∈ listed, s'.key ≠ s.key) ∧
      after.services = lastListed listed := by
  have hend : (t.listing listed).process .initDone =
      (t.listing listed).finishList (listed.map Service.key).reverse := by
    rw [listing_eq]
    rfl
  have hlisted (key : ObjectKey) : key ∉ (listed.map Service.key).reverse ↔
      (lastListed listed).get? key = none := by
    rw [get?_lastListed_eq_none_iff]
    simp
  simp only [hend]
  refine ⟨nodup_finishList _ _, fun n => ?_, Shelf.ext_get? fun key => ?_⟩
  · simp only [mem_finishList, hlisted, get?_services_listing, ← get?_lastListed_eq_none_iff]
    constructor
    · rintro ⟨key, s, hs, hnone, rfl⟩
      rw [hnone, Option.none_or] at hs
      have hkey : s.key = key := Shelf.key_of_get? hs
      exact ⟨s, rfl, hkey.symm ▸ hs, hkey.symm ▸ hnone⟩
    · rintro ⟨s, rfl, hs, hnone⟩
      exact ⟨s.key, s, by rw [hnone, Option.none_or, hs], hnone, rfl⟩
  · rw [get?_services_finishList, get?_services_listing]
    split
    · next hmem =>
      obtain ⟨s, hs⟩ := Option.ne_none_iff_exists'.1 (mt (hlisted key).2 (fun hnot => hnot hmem))
      rw [hs, Option.some_or]
    · next hnot => exact ((hlisted key).1 hnot).symm

end Tracker

/-! ## Replay -/

/-- The notifications of any run of events tell what is remembered after it, and each fits what was
remembered before it. If then all services are listed anew, the end of the list tells that those are
gone that were remembered and have not been listed, each once and as it was remembered, and what is
remembered by then is just what has been listed. -/
theorem notifications_replay (events : List WatchEvent) :
    let (told, t) := Tracker.processAll {} events
    Notification.AllFit ∅ told ∧ told.foldl Notification.note ∅ = t.services ∧
      ∀ listed : List Service,
        let (done, after) := (t.processAll (.init :: listed.map .initApply)).2.process .initDone
        (done.map (·.service.key)).Nodup ∧
          (∀ n, n ∈ done ↔ ∃ s, n = .deleted s ∧ t.services.get? s.key = some s ∧
            ∀ s' ∈ listed, s'.key ≠ s.key) ∧
          after.services = .ofList listed := by
  obtain ⟨hfit, hnotes⟩ := Tracker.tell_processAll {} events
  exact ⟨hfit, hnotes, fun listed => Tracker.finish_listing _ listed⟩

end ServiceExposure
