import ServiceExposure.Proofs.ConcurrentEdits
import ServiceExposure.Proofs.IngressAgreement
import ServiceExposure.Proofs.Watching

/-! # Withdrawn services

A service that ceases to ask for exposure is withdrawn by the event that shows it so. A withdrawal
that fails is not made up for: by the next event the tracker remembers a service that does not ask
for exposure, and that is not acted on. -/

namespace ServiceExposure

namespace Cluster

/-- Whether nothing that a strategy routes with is left for a service, and no URL on the stored
service. -/
structure Withdrawn (c : Cluster) (st : Strategy) (s : Service) : Prop where
  ingress : st.routingKind? = some .ingress → c.ingresses.get? s.home = none
  route : st.routingKind? = some .route → c.routes.get? s.home = none
  url : ∀ t, c.services.get? s.key = some t → t.annotation? Annotation.exposeUrl = none

variable {c : Cluster} {s : Service}

theorem unrouting_eq_nil_iff {st : Strategy} :
    st.unrouting s (c.snapshot st s.key.inNamespace) = [] ↔
      (st.routingKind? = some .ingress → c.ingresses.get? s.home = none) ∧
        (st.routingKind? = some .route → c.routes.get? s.home = none) := by
  cases st with
  | ingress st =>
    simp [Strategy.unrouting, Strategy.routingKind?, Dict.contains, c.get?_ingresses, Service.home]
  | nodePort nodeIP => simp [Strategy.unrouting, Strategy.routingKind?]
  | loadBalancer => simp [Strategy.unrouting, Strategy.routingKind?]
  | route st =>
    simp [Strategy.unrouting, Strategy.routingKind?, Dict.contains, c.get?_routes, Service.home]

/-- The writes that withdraw a service have that effect. -/
theorem effects_planRemove (r : Reconciler) (hstored : c.services.get? s.key = some s) :
    ∃ after, c.effects (r.planRemove s (c.snapshot r.strategy s.key.inNamespace)) = .ok after ∧
      after.services = c.services.insert s.key s.clearUrl ∧ after.Withdrawn r.strategy s := by
  obtain ⟨unrouted, hunrouting, hsame, hnone⟩ := r.strategy.unrouting_settles (c := c) s
  have hgone := unrouting_eq_nil_iff.1 hnone
  have hservices :
      (unrouted.rebased s s.clearUrl s).services = c.services.insert s.key s.clearUrl := by
    rw [rebased, LawfulRebase.service.base, hsame.services]
  refine ⟨unrouted.rebased s s.clearUrl s, ?_, hservices, ⟨hgone.1, hgone.2, ?_⟩⟩
  · rw [planRemove_eq]
    exact effects_append_patchWrites hunrouting hsame hstored s.clearUrl
  · intro t ht
    rw [hservices, Dict.get?_insert_self] at ht
    obtain rfl : s.clearUrl = t := Option.some.inj ht
    exact s.annotation?_exposeUrl_clearUrl

variable {r : Reconciler} {old : Service}

/-- A withdrawal is complete where the store works. -/
theorem withdrawn_handled (hstored : c.services.get? s.key = some s) (hworks : c.failing = [])
    (hwants : r.wants (.updated old s)) (hs : ¬s.isExposed) :
    (c.handled r (.updated old s)).Withdrawn r.strategy s := by
  obtain ⟨after, heffects, -, hwithdrawn⟩ := effects_planRemove r hstored
  rw [← Reconciler.plan_of_withdraws hwants hs] at heffects
  rw [handled, run_handle_of_works hwants hworks heffects]
  exact { hwithdrawn with }

end Cluster

/-! ## Events that show a service unexposed -/

namespace Watching

variable {r : Reconciler} {state : Watching} {s : Service}

/-- Nothing is done, unless the service is allowed and remembered otherwise. -/
theorem cluster_next_apply (h : ¬(r.allows s.name ∧ ¬state.watch.tracker.RemembersUnexposed s.key))
    (hs : ¬s.isExposed) :
    (next r state (.event (.apply s))).cluster = state.cluster := by
  rw [cluster_next_event]
  cases hget : state.watch.tracker.services.get? s.key with
  | none =>
    rw [Tracker.process_apply_of_new hget]
    have hwants : r.wants (.added s) = false := by
      simp [Reconciler.wants, Notification.concernsExposed, hs]
    exact congrArg Prod.snd (Cluster.run_handle_of_not_wants hwants state.cluster)
  | some old =>
    rw [Tracker.process_apply_of_known hget]
    have hwants : r.wants (.updated old s) = false := by
      refine Bool.eq_false_iff.2 fun hwants => h ?_
      simp only [Reconciler.wants, Notification.service, Notification.concernsExposed, hs,
        Bool.and_eq_true, Bool.false_or] at hwants
      exact ⟨hwants.1, fun hnone => hnone old hget hwants.2⟩
    exact congrArg Prod.snd (Cluster.run_handle_of_not_wants hwants state.cluster)

/-- Where the service is allowed and remembered otherwise, the event withdraws it. -/
theorem withdrawn_next_apply (h : r.allows s.name ∧ ¬state.watch.tracker.RemembersUnexposed s.key)
    (hs : ¬s.isExposed) (hstored : state.cluster.services.get? s.key = some s)
    (hworks : state.cluster.failing = []) :
    (next r state (.event (.apply s))).cluster.Withdrawn r.strategy s := by
  obtain ⟨hallows, hremembered⟩ := h
  simp only [Tracker.RemembersUnexposed, not_forall, not_not] at hremembered
  obtain ⟨old, hget, hold⟩ := hremembered
  have hwants : r.wants (.updated old s) := by
    simp [Reconciler.wants, Notification.service, Notification.concernsExposed, hallows, hold]
  rw [cluster_next_event, Tracker.process_apply_of_known hget]
  exact Cluster.withdrawn_handled hstored hworks hwants hs

/-- Where a namespace cannot be loaded, events leave the cluster as it is. -/
theorem cluster_next_event_of_not_lists (h : state.cluster.lists r.strategy = false)
    (event : WatchEvent) :
    (next r state (.event event)).cluster = state.cluster := by
  rw [cluster_next_event]
  refine List.foldlRecOn (motive := fun c => c = state.cluster) _ (Cluster.handled r) rfl ?_
  rintro c rfl n -
  cases hwants : r.wants n with
  | false => rw [Cluster.handled, Cluster.run_handle_of_not_wants hwants]
  | true =>
    obtain ⟨failure, hfailed⟩ := Cluster.run_handle_of_not_lists hwants h
    rw [Cluster.handled, hfailed]

end Watching

namespace Sample

/-- The service after it was exposed and ceased to ask for it. -/
def idle : Service where
  metadata := {
    name := some "web"
    inNamespace := some "ns1"
    uid := some "web-uid"
    annotations := some (.ofList [( Annotation.exposeUrl, "http://web.ns1.example.org")]) }
  spec := some { ports := some [{ port := 80 }] }

/-- What the service was exposed with, in a cluster that does not list its configuration maps. -/
def stranded : Cluster :=
  { (serving idle).putIngress (webIngress [formerRule] none) with
    failing := [(Call.list .configMap).name] }

/-- A watch that has seen the service while it asked for exposure. -/
def watching : Watching := Watching.after reconciler { cluster := stranded } [.event (.apply web)]

theorem not_lists_stranded : stranded.lists reconciler.strategy = false := by decide

theorem cluster_watching : watching.cluster = stranded := by
  have hlists : (Watching.mk {} stranded).cluster.lists reconciler.strategy = false :=
    not_lists_stranded
  exact Watching.cluster_next_event_of_not_lists hlists (.apply web)

/-- The state after the service was shown idle, once nothing fails any more. -/
def recovered : Watching := Watching.after reconciler watching [.event (.apply idle), .fail []]

theorem isExposed_idle : ¬idle.isExposed := by decide

theorem cluster_recovered : recovered.cluster = { stranded with failing := [] } := by
  have hlists : watching.cluster.lists reconciler.strategy = false :=
    cluster_watching ▸ not_lists_stranded
  have hfailed := Watching.cluster_next_event_of_not_lists hlists (.apply idle)
  rw [cluster_watching] at hfailed
  exact congrArg (fun c : Cluster => { c with failing := [] }) hfailed

theorem get?_services_recovered : recovered.cluster.services.get? idle.key = some idle :=
  cluster_recovered ▸ Dict.get?_insert_self _ _ _

theorem failing_recovered : recovered.cluster.failing = [] := cluster_recovered ▸ rfl

theorem not_withdrawn_recovered : ¬recovered.cluster.Withdrawn reconciler.strategy idle := by
  intro h
  have hurl := h.url idle get?_services_recovered
  exact absurd hurl (by decide)

end Sample

/-! ## Withdrawal -/

/-- Once an event has shown a service without the wish to be exposed, whether or not its withdrawal
succeeded, another such event leaves the cluster as it is, unless the service was shown with the
wish in between. Where the store works, the event withdraws just what is remembered with the wish
and is not withdrawn already. -/
theorem withdrawal_not_made_up_for {r : Reconciler} {state : Watching} {new s : Service}
    {between : List Happening} (hnew : ¬new.isExposed) (hs : ¬s.isExposed)
    (hkey : s.key = new.key) :
    let before := Watching.after r state (.event (.apply new) :: between)
    let last := Watching.next r before (.event (.apply s))
    ((∀ event, .event event ∈ between → event.ShowsUnexposed s.key) →
      last.cluster = before.cluster) ∧
      (before.cluster.services.get? s.key = some s → before.cluster.failing = [] →
        (last.cluster.Withdrawn r.strategy s ↔
          (r.allows s.name ∧ ¬before.watch.tracker.RemembersUnexposed s.key) ∨
            before.cluster.Withdrawn r.strategy s)) := by
  intro before last
  have hremembered :
      (Watching.next r state (.event (.apply new))).watch.tracker.RemembersUnexposed s.key :=
    hkey ▸ Tracker.remembersUnexposed_observe hnew
  refine ⟨fun hshown => ?_, fun hstored hworks => ?_⟩
  · exact Watching.cluster_next_apply
      (fun h => h.2 (Watching.remembersUnexposed_after hremembered hshown)) hs
  · by_cases h : r.allows s.name ∧ ¬before.watch.tracker.RemembersUnexposed s.key
    · exact iff_of_true (Watching.withdrawn_next_apply h hs hstored hworks) (.inl h)
    · have hsame : last.cluster = before.cluster := Watching.cluster_next_apply h hs
      rw [hsame]
      exact (or_iff_right h).symm

open Sample in
theorem withdrawal_not_made_up_for_web :
    let last := Watching.next reconciler recovered (.event (.apply idle))
    last.cluster = recovered.cluster ∧ (last.cluster.Withdrawn reconciler.strategy idle ↔
      (reconciler.allows idle.name ∧ ¬recovered.watch.tracker.RemembersUnexposed idle.key) ∨
        recovered.cluster.Withdrawn reconciler.strategy idle) := by
  have hquiet : ∀ event, .event event ∈ [Happening.fail []] → event.ShowsUnexposed idle.key := by
    intro event hevent
    cases List.mem_singleton.1 hevent
  obtain ⟨hsame, hwithdrawn⟩ :=
    @withdrawal_not_made_up_for reconciler watching idle idle [.fail []] isExposed_idle
      isExposed_idle rfl
  exact ⟨hsame hquiet, hwithdrawn get?_services_recovered failing_recovered⟩

open Sample in
/-- The notification that withdraws the service fails, and the next event of the service leaves it
exposed. -/
theorem withdrawal_lost :
    (watching.watch.tracker.process (.apply idle)).1 = [.updated web idle] ∧ web.isExposed ∧
    ¬idle.isExposed ∧
    (∃ failure, Cluster.run (reconciler.handle Cluster.store (.updated web idle)) watching.cluster =
      (.error failure, watching.cluster)) ∧
    recovered.cluster.failing = [] ∧ recovered.cluster.services.get? idle.key = some idle ∧
    ¬(Watching.next reconciler recovered (.event (.apply idle))).cluster.Withdrawn
      reconciler.strategy idle := by
  have hseen : watching.watch.tracker.services.get? idle.key = some web := Shelf.get?_put_self _ _
  have hwants : reconciler.wants (.updated web idle) := by decide
  have hfailed := Cluster.run_handle_of_not_lists hwants not_lists_stranded
  refine ⟨Tracker.process_apply_of_known hseen, isExposed_web, isExposed_idle, ?_,
    failing_recovered, get?_services_recovered, ?_⟩
  · rw [cluster_watching]
    exact hfailed
  · have hremembered : recovered.watch.tracker.RemembersUnexposed idle.key :=
      Tracker.remembersUnexposed_observe (t := watching.watch.tracker) isExposed_idle
    rw [Watching.cluster_next_apply (fun h => h.2 hremembered) isExposed_idle]
    exact not_withdrawn_recovered

end ServiceExposure
