import ServiceExposure.Proofs.Delivery
import ServiceExposure.Watch

/-! # Watching a cluster

While services are watched, events are handled, others change the cluster, and calls start or cease
to fail. What the tracker remembers of a service follows from the events alone; whether they were
handled does not bear on it. -/

namespace ServiceExposure

/-! ## Runs -/

/-- What happens while services are watched. -/
inductive Happening where
  /-- An event of the watch, which is handled before anything else happens. -/
  | event (event : WatchEvent)
  /-- Others store an object. -/
  | put (kind : ObjectKind) (document : Json)
  /-- Others remove an object. -/
  | drop (kind : ObjectKind) (key : ObjectKey)
  /-- From now on, the calls of these names fail, and no others. -/
  | fail (calls : List String)

structure Watching where
  watch : Watch := {}
  cluster : Cluster

namespace Watching

def next (r : Reconciler) (state : Watching) : Happening → Watching
  | .event event =>
    let (watch, cluster) :=
      StateT.run (m := Id) (state.watch.step r Cluster.store event) state.cluster
    { watch, cluster }
  | .put kind document =>
    { state with cluster := (state.cluster.put? kind document).getD state.cluster }
  | .drop kind key => { state with cluster := state.cluster.drop kind key }
  | .fail calls => { state with cluster := { state.cluster with failing := calls } }

def after (r : Reconciler) (state : Watching) (happenings : List Happening) : Watching :=
  happenings.foldl (next r) state

end Watching

namespace Cluster

/-- The cluster once a notification is handled, as far as that goes. -/
def handled (r : Reconciler) (c : Cluster) (n : Notification) : Cluster :=
  (run (r.handle store n) c).2

end Cluster

namespace Watching

variable {r : Reconciler}

theorem cluster_handle (metrics : Metrics) (n : Notification) (c : Cluster) :
    (StateT.run (m := Id) (Watch.handle r Cluster.store metrics n) c).2 = c.handled r n := by
  rw [Cluster.handled, Cluster.run, Watch.handle, StateT.run_bind]
  rcases StateT.run (ExceptT.run (r.handle Cluster.store n)) c with ⟨failure | k, c⟩ <;> rfl

theorem cluster_handleAll (metrics : Metrics) (ns : List Notification) (c : Cluster) :
    (StateT.run (m := Id) (Watch.handleAll r Cluster.store metrics ns) c).2 =
      ns.foldl (Cluster.handled r) c := by
  induction ns generalizing metrics c with
  | nil => rfl
  | cons n ns ih =>
    rw [Watch.handleAll, StateT.run_bind, List.foldl_cons, ← cluster_handle metrics n c]
    exact ih _ _

/-- An event is handled one notification after the other. -/
theorem cluster_next_event (state : Watching) (event : WatchEvent) :
    (next r state (.event event)).cluster =
    (state.watch.tracker.process event).1.foldl (Cluster.handled r) state.cluster := by
  rw [← cluster_handleAll state.watch.metrics]
  rfl

/-- What is remembered follows from the event alone. -/
theorem tracker_next_event (state : Watching) (event : WatchEvent) :
    (next r state (.event event)).watch.tracker = (state.watch.tracker.process event).2 := rfl

/-- Running through a stream of events is what happens where nothing else does. -/
theorem run_eq_after (state : Watching) (events : List WatchEvent) :
    let last := after r state (events.map .event)
    StateT.run (m := Id) (state.watch.run r Cluster.store events) state.cluster =
      (last.watch, last.cluster) := by
  induction events generalizing state with
  | nil => rfl
  | cons event events ih =>
    rw [Watch.run, StateT.run_bind]
    exact ih (next r state (.event event))

/-- What each happening keeps, they all keep. -/
theorem after_keeps {P : Watching → Prop} {state : Watching} {happenings : List Happening}
    (h : P state)
    (hnext : ∀ state, P state → ∀ happening ∈ happenings, P (next r state happening)) :
    P (after r state happenings) :=
  List.foldlRecOn happenings (next r) h hnext

end Watching

/-! ## Memory -/

namespace WatchEvent

/-- The service that an event shows, as it is by then. -/
def shown? : WatchEvent → Option Service
  | initApply s | apply s => some s
  | init | delete _ | initDone => none

/-- Whether an event shows the service of that key without the wish to be exposed, if it shows
it. -/
def ShowsUnexposed (key : ObjectKey) (event : WatchEvent) : Prop :=
  ∀ s, event.shown? = some s → s.key = key → ¬s.isExposed

end WatchEvent

namespace Tracker

theorem get?_services_observe_self (t : Tracker) (s : Service) :
    (t.observe s).2.services.get? s.key = some s :=
  t.services.get?_put_self s

theorem get?_services_observe_of_ne (t : Tracker) {s : Service} {key : ObjectKey}
    (h : s.key ≠ key) :
    (t.observe s).2.services.get? key = t.services.get? key :=
  t.services.get?_put_of_ne h

theorem process_apply_of_new {t : Tracker} {s : Service} (h : t.services.get? s.key = none) :
    (t.process (.apply s)).1 = [.added s] := by
  simp only [process, observe, h]

theorem process_apply_of_known {t : Tracker} {s old : Service}
    (h : t.services.get? s.key = some old) :
    (t.process (.apply s)).1 = [.updated old s] := by
  simp only [process, observe, h]

/-- Whether the service of that key, if it is remembered, did not ask to be exposed when it was seen
last. -/
def RemembersUnexposed (key : ObjectKey) (t : Tracker) : Prop :=
  ∀ old, t.services.get? key = some old → ¬old.isExposed

theorem remembersUnexposed_observe {t : Tracker} {s : Service} (hs : ¬s.isExposed) :
    (t.observe s).2.RemembersUnexposed s.key := by
  intro old hold
  obtain rfl : s = old := Option.some.inj ((t.get?_services_observe_self s).symm.trans hold)
  exact hs

namespace RemembersUnexposed

variable {key : ObjectKey} {t : Tracker} (h : t.RemembersUnexposed key)
include h

theorem observe {s : Service} (hs : s.key = key → ¬s.isExposed) :
    (t.observe s).2.RemembersUnexposed key := by
  by_cases hkey : s.key = key
  · exact hkey ▸ remembersUnexposed_observe (hs hkey)
  · intro old hold
    exact h old ((t.get?_services_observe_of_ne hkey).symm.trans hold)

/-- Only an event that shows the service with the wish to be exposed makes the tracker remember it
so. -/
theorem process {event : WatchEvent} (hevent : event.ShowsUnexposed key) :
    (t.process event).2.RemembersUnexposed key := by
  cases event with
  | init => exact h
  | initApply s =>
    exact observe (t := { t with relisted := t.relisted.map (s.key :: ·) }) h (hevent s rfl)
  | apply s => exact h.observe (hevent s rfl)
  | delete s =>
    intro old hold
    by_cases hkey : s.key = key
    · simp [Tracker.process, hkey] at hold
    · exact h old ((Shelf.get?_erase_of_ne _ hkey).symm.trans hold)
  | initDone =>
    simp only [Tracker.process]
    split
    · exact h
    · intro old hold
      simp only [finishList, Shelf.get?_foldl_erase] at hold
      split at hold
      · cases hold
      · exact h old hold

end RemembersUnexposed

end Tracker

namespace Watching

variable {r : Reconciler} {key : ObjectKey}

theorem remembersUnexposed_next {state : Watching} (h : state.watch.tracker.RemembersUnexposed key)
    {happening : Happening}
    (hshown : ∀ event, happening = .event event → event.ShowsUnexposed key) :
    (next r state happening).watch.tracker.RemembersUnexposed key := by
  cases happening with
  | event event => exact tracker_next_event (r := r) state event ▸ h.process (hshown event rfl)
  | put kind document => exact h
  | drop kind key => exact h
  | fail calls => exact h

/-- As long as no event shows the service with the wish to be exposed, it is not remembered so. -/
theorem remembersUnexposed_after {state : Watching} (h : state.watch.tracker.RemembersUnexposed key)
    {happenings : List Happening}
    (hshown : ∀ event, .event event ∈ happenings → event.ShowsUnexposed key) :
    (after r state happenings).watch.tracker.RemembersUnexposed key := by
  refine after_keeps (P := fun state => state.watch.tracker.RemembersUnexposed key) h ?_
  intro state hstate happening hmem
  exact remembersUnexposed_next hstate fun event heq => hshown event (heq ▸ hmem)

end Watching

end ServiceExposure
