import ServiceExposure.Proofs.Propagation
import ServiceExposure.Proofs.Routing
import ServiceExposure.Proofs.ServicePatch

/-! # Plans in stages

What is planned for an exposed service comes in four stages: its routing object, its record, the
configuration maps of its namespace and the deployments that read them. Each stage has to do with
one kind of object, so the effect of a stage can be told from what was there before the first
(`Cluster.effects_planAdd`). -/

namespace ServiceExposure

/-! ## Targets -/

namespace Strategy

/-- The service whose address is propagated: one that cannot be exposed stays as it is. -/
def target (st : Strategy) (s : Service) (snapshot : Snapshot) : Service :=
  match st.routing s snapshot with
  | .ok _ => st.desired s
  | .error _ => s

/-- The writes for the routing object, of which there are none for a service that cannot be
exposed. -/
def routed (st : Strategy) (s : Service) (snapshot : Snapshot) : List Write :=
  match st.routing s snapshot with
  | .ok ws => ws
  | .error _ => []

variable {st : Strategy} {s : Service}

theorem target_of_routing {snapshot : Snapshot} {ws : List Write}
    (h : st.routing s snapshot = .ok ws) :
    st.target s snapshot = st.desired s := by
  rw [target, h]

theorem routed_of_routing {snapshot : Snapshot} {ws : List Write}
    (h : st.routing s snapshot = .ok ws) :
    st.routed s snapshot = ws := by
  rw [routed, h]

/-- Once the routing object is as it is to be, there is nothing to write for it, and the target is
still the same. -/
theorem routed_settles (st : Strategy) (s : Service) {c : Cluster} :
    ∃ after, c.effects (st.routed s (c.snapshot st s.key.inNamespace)) = .ok after ∧
      c.SameButRouting after ∧
      st.routed s (after.snapshot st s.key.inNamespace) = [] ∧
      st.target s (after.snapshot st s.key.inNamespace) =
        st.target s (c.snapshot st s.key.inNamespace) := by
  cases h : st.routing s (c.snapshot st s.key.inNamespace) with
  | error failure => exact ⟨c, by simp [routed, h], rfl, by simp [routed, h], rfl⟩
  | ok ws =>
    obtain ⟨after, heffects, hsame, hsettled⟩ := routing_settles h
    refine ⟨after, by rw [routed_of_routing h, heffects], hsame, routed_of_routing hsettled, ?_⟩
    rw [target_of_routing h, target_of_routing hsettled]

/-- A target is its own target, and needs no other routing object. -/
theorem target_again (halias : s.AliasIsFree) (snapshot : Snapshot) :
    st.target (st.target s snapshot) snapshot = st.target s snapshot ∧
      st.routed (st.target s snapshot) snapshot = st.routed s snapshot ∧
      Service.Alike s (st.target s snapshot) := by
  cases h : st.routing s snapshot with
  | error failure =>
    have hsame : st.target s snapshot = s := by rw [target, h]
    rw [hsame]
    exact ⟨hsame, rfl, .refl s⟩
  | ok ws =>
    have halike := st.alike_desired halias
    have hrouting : st.routing (st.desired s) snapshot = .ok ws := by rw [halike.routing, h]
    rw [target_of_routing h, target_of_routing hrouting, st.desired_again halias,
      routed_of_routing h, routed_of_routing hrouting]
    exact ⟨rfl, rfl, halike⟩

end Strategy

/-! ## Stages -/

/-- The patch from one state of a service to another, if they differ. -/
def patchWrites (observed desired : Service) : List Write :=
  ((Exposure.servicePatch? observed desired).map (.patchService observed.key)).toList

@[simp] theorem patchWrites_self (s : Service) : patchWrites s s = [] := by
  rw [patchWrites, Service.servicePatch?_eq_none_iff.2 rfl]
  rfl

theorem exists_of_mem_patchWrites {observed desired : Service} {w : Write}
    (h : w ∈ patchWrites observed desired) :
    ∃ patch, w = .patchService observed.key patch := by
  obtain ⟨patch, -, rfl⟩ := Option.map_eq_some_iff.1 (Option.mem_toList.1 h)
  exact ⟨patch, rfl⟩

theorem filter_patchWrites (observed desired : Service) :
    (patchWrites observed desired).filter (fun w => !w.isServicePatch) = [] := by
  rw [patchWrites]
  cases Exposure.servicePatch? observed desired <;> rfl

theorem Reconciler.planAdd_of_snapshot (r : Reconciler) (s : Service) (snapshot : Snapshot) :
    r.planAdd s snapshot =
      let target := r.strategy.target s snapshot
      let replaced := Propagation.changed r.settings target snapshot.configMaps
      r.strategy.routed s snapshot ++ patchWrites s target ++ replaced.map .replaceConfigMap ++
        (Rollout.rolledOut replaced snapshot.deployments).map .replaceDeployment := by
  have hpropagate (t : Service) : r.propagate t snapshot =
      (Propagation.changed r.settings t snapshot.configMaps).map .replaceConfigMap ++
        (Rollout.rolledOut (Propagation.changed r.settings t snapshot.configMaps)
          snapshot.deployments).map
          .replaceDeployment := by
    simp only [propagate, Rollout.rolledOut, List.map_map]
    rfl
  simp only [planAdd, Strategy.add_eq, Strategy.routed, Strategy.target]
  cases r.strategy.routing s snapshot with
  | ok ws => simp [Except.map, Exposure.of, hpropagate, patchWrites]
  | error failure => simp [Except.map, hpropagate]

theorem Reconciler.planAdd_eq (r : Reconciler) (s : Service) (c : Cluster) (ns : String) :
    r.planAdd s (c.snapshot r.strategy ns) =
      let target := r.strategy.target s (c.snapshot r.strategy ns)
      r.strategy.routed s (c.snapshot r.strategy ns) ++ patchWrites s target ++
        (c.outdated r.settings target ns).map .replaceConfigMap ++
        (c.toRestart (c.outdated r.settings target ns) ns).map .replaceDeployment :=
  r.planAdd_of_snapshot s (c.snapshot r.strategy ns)

namespace Cluster

/-- The cluster with a service that the change between two states was made on. -/
def rebased (c : Cluster) (observed desired live : Service) : Cluster :=
  { c with services := c.services.insert observed.key (observed.rebase desired live) }

theorem effects_patchWrites {c : Cluster} {observed : Service} (desired : Service) {live : Service}
    (h : c.services.get? observed.key = some live) :
    c.effects (patchWrites observed desired) = .ok (c.rebased observed desired live) := by
  have hpatched := Service.ofJson?_patched observed desired live
  rw [patchWrites]
  cases hpatch : Exposure.servicePatch? observed desired with
  | none =>
    obtain rfl := Service.servicePatch?_eq_none_iff.1 hpatch
    rw [rebased, LawfulRebase.service.same, Dict.insert_of_get? h]
    rfl
  | some patch =>
    rw [hpatch, Json.patched] at hpatched
    simp [effects, effect, patchService, h, hpatched, rebased]

/-- Whether two clusters differ in their services only. -/
def SameButServices (c after : Cluster) : Prop := after = { c with services := after.services }

namespace SameButServices

variable {c after : Cluster} (h : c.SameButServices after)
include h

theorem ingresses : after.ingresses = c.ingresses := by
  rw [SameButServices] at h
  rw [h]

theorem routes : after.routes = c.routes := by
  rw [SameButServices] at h
  rw [h]

theorem configMaps : after.configMaps = c.configMaps := by
  rw [SameButServices] at h
  rw [h]

theorem deployments : after.deployments = c.deployments := by
  rw [SameButServices] at h
  rw [h]

end SameButServices

/-- A patch that could be made can be made again, and then changes nothing. -/
theorem patchWrites_settle {c after : Cluster} {observed desired : Service}
    (h : c.effects (patchWrites observed desired) = .ok after) :
    c.SameButServices after ∧
      ∀ later : Cluster, later.services = after.services →
        later.effects (patchWrites observed desired) = .ok later := by
  -- with nothing to patch there is no write, and the service need not even be stored
  by_cases hsame : observed = desired
  · subst hsame
    rw [patchWrites_self] at h
    cases h
    exact ⟨rfl, fun later _ => by rw [patchWrites_self]; rfl⟩
  · obtain ⟨patch, hpatch⟩ :=
      Option.ne_none_iff_exists'.1 (mt Service.servicePatch?_eq_none_iff.1 hsame)
    cases hlive : c.services.get? observed.key with
    | none =>
      rw [patchWrites, hpatch] at h
      obtain ⟨next, hpatched, -⟩ := effects_cons_eq_ok_iff.1 h
      obtain ⟨s, patched, hs, -⟩ := patchService_eq_ok_iff.1 hpatched
      cases hlive.symm.trans hs
    | some live =>
      rw [effects_patchWrites desired hlive] at h
      cases h
      -- the patched service is patched again; the change on it is made already
      refine ⟨rfl, fun later hlater => ?_⟩
      have hget : later.services.get? observed.key = some (observed.rebase desired live) := by
        rw [hlater]
        exact Dict.get?_insert_self _ _ _
      rw [effects_patchWrites desired hget, rebased, LawfulRebase.service.again,
        Dict.insert_of_get? hget]

theorem effects_append_eq_ok_iff {c after : Cluster} {ws more : List Write} :
    c.effects (ws ++ more) = .ok after ↔
    ∃ next, c.effects ws = .ok next ∧ next.effects more = .ok after := by
  rw [effects_append]
  cases c.effects ws <;> simp [Except.bind]

/-- A service is patched after the writes for its routing object as it would be before them. -/
theorem effects_append_patchWrites {c routed : Cluster} {s live : Service} {ws : List Write}
    (heffects : c.effects ws = .ok routed) (hsame : c.SameButRouting routed)
    (hlive : c.services.get? s.key = some live) (desired : Service) :
    c.effects (ws ++ patchWrites s desired) = .ok (routed.rebased s desired live) := by
  rw [← hsame.services] at hlive
  exact effects_append_eq_ok_iff.2 ⟨routed, heffects, effects_patchWrites desired hlive⟩

/-- The cluster with the address of a service in the configuration maps and deployments of a
namespace. -/
def propagated (c : Cluster) (settings : Propagation.Settings) (s : Service)
    (ns : String) : Cluster :=
  (c.configured settings s ns).restarted (c.outdated settings s ns) ns

/-- The clusters after the first and the second stage of what is planned for an exposed service, and
its target. -/
structure Stages (r : Reconciler) (s t : Service) (c routed recorded : Cluster) : Prop where
  routing : c.effects (r.strategy.routed s (c.snapshot r.strategy s.key.inNamespace)) = .ok routed
  same_but_routing : c.SameButRouting routed
  routing_settled : r.strategy.routed s (routed.snapshot r.strategy s.key.inNamespace) = []
  target : r.strategy.target s (c.snapshot r.strategy s.key.inNamespace) = t
  target_settled : r.strategy.target s (routed.snapshot r.strategy s.key.inNamespace) = t
  record : routed.effects (patchWrites s t) = .ok recorded
  same_but_services : routed.SameButServices recorded

namespace Stages

variable {r : Reconciler} {s t : Service} {c routed recorded : Cluster}
  (h : Stages r s t c routed recorded)
include h

theorem configMaps : recorded.configMaps = c.configMaps :=
  h.same_but_services.configMaps.trans h.same_but_routing.configMaps

theorem deployments : recorded.deployments = c.deployments :=
  h.same_but_services.deployments.trans h.same_but_routing.deployments

theorem outdated (settings : Propagation.Settings) (t : Service) (ns : String) :
    c.outdated settings t ns = recorded.outdated settings t ns := by
  rw [Cluster.outdated, Cluster.outdated, h.configMaps]

theorem toRestart (settings : Propagation.Settings) (t : Service) (configMaps : List ConfigMap)
    (ns : String) :
    c.toRestart configMaps ns = (recorded.configured settings t ns).toRestart configMaps ns := by
  rw [Cluster.toRestart, ← h.deployments]
  rfl

/-- The writes of the stages and of the propagation of the target. -/
theorem planAdd : r.planAdd s (c.snapshot r.strategy s.key.inNamespace) =
    r.strategy.routed s (c.snapshot r.strategy s.key.inNamespace) ++ (patchWrites s t ++
      ((recorded.outdated r.settings t s.key.inNamespace).map .replaceConfigMap ++
        ((recorded.configured r.settings t s.key.inNamespace).toRestart
          (recorded.outdated r.settings t s.key.inNamespace) s.key.inNamespace).map
          .replaceDeployment)) := by
  simp only [r.planAdd_eq, h.target, h.outdated, List.append_assoc]
  rw [h.toRestart r.settings t]

/-- What is planned takes the cluster through the stages, and then propagates the target. -/
theorem effects : c.effects (r.planAdd s (c.snapshot r.strategy s.key.inNamespace)) =
    .ok (recorded.propagated r.settings t s.key.inNamespace) := by
  rw [h.planAdd]
  refine effects_append_eq_ok_iff.2 ⟨routed, h.routing,
    effects_append_eq_ok_iff.2 ⟨recorded, h.record, ?_⟩⟩
  exact effects_append_eq_ok_iff.2
    ⟨_, effects_outdated .., effects_toRestart ..⟩

/-- A stored service is recorded as its target, and no other service changes. -/
theorem services (hstored : c.services.get? s.key = some s) :
    recorded.services = c.services.insert s.key t := by
  have hrouted : routed.services.get? s.key = some s := h.same_but_routing.services ▸ hstored
  have hrecord := h.record
  rw [effects_patchWrites t hrouted, rebased, LawfulRebase.service.base] at hrecord
  rw [← Except.ok.inj hrecord, h.same_but_routing.services]

theorem get?_services (hstored : c.services.get? s.key = some s) :
    recorded.services.get? s.key = some t := by
  rw [h.services hstored]
  exact Dict.get?_insert_self _ _ _

end Stages

variable {r : Reconciler} {s t : Service} {c : Cluster}

/-- If what is planned has an effect, it takes the cluster through stages. -/
theorem effects_planAdd {after : Cluster}
    (h : c.effects (r.planAdd s (c.snapshot r.strategy s.key.inNamespace)) = .ok after) :
    ∃ t routed recorded, Stages r s t c routed recorded ∧
      after = recorded.propagated r.settings t s.key.inNamespace := by
  obtain ⟨routed, hrouting, hsame, hsettled, htarget⟩ := r.strategy.routed_settles s
  have hplan := h
  simp only [Reconciler.planAdd_eq, List.append_assoc] at hplan
  obtain ⟨routed', hrouting', hplan⟩ := effects_append_eq_ok_iff.1 hplan
  obtain rfl : routed = routed' := Except.ok.inj (hrouting.symm.trans hrouting')
  obtain ⟨recorded, hrecord, -⟩ := effects_append_eq_ok_iff.1 hplan
  have hstages : Stages r s _ c routed recorded :=
    ⟨hrouting, hsame, hsettled, rfl, htarget, hrecord, (patchWrites_settle hrecord).1⟩
  exact ⟨_, routed, recorded, hstages, Except.ok.inj (h.symm.trans (hstages.effects))⟩

/-- What is planned for a stored service has an effect. -/
theorem exists_stages (r : Reconciler) {live : Service}
    (hlive : c.services.get? s.key = some live) :
    ∃ t routed recorded, Stages r s t c routed recorded := by
  obtain ⟨routed, hrouting, hsame, hsettled, htarget⟩ := r.strategy.routed_settles s
  have hrecord :=
    effects_patchWrites (c := routed)
      (r.strategy.target s (c.snapshot r.strategy s.key.inNamespace))
    (hsame.services ▸ hlive)
  exact ⟨_, routed, _, hrouting, hsame, hsettled, rfl, htarget, hrecord,
    (patchWrites_settle hrecord).1⟩

theorem snapshot_congr {a b : Cluster} (hingresses : a.ingresses = b.ingresses)
    (hroutes : a.routes = b.routes) (st : Strategy) (ns : String) :
    (a.snapshot st ns).ingresses = (b.snapshot st ns).ingresses ∧
      (a.snapshot st ns).routes = (b.snapshot st ns).routes := by
  simp only [snapshot, hingresses, hroutes, and_self]

theorem toRestart_nil (c : Cluster) (ns : String) : c.toRestart [] ns = [] :=
  Rollout.rolledOut_nil _

/-- A cluster in which a service is exposed: all that there is to plan for it is the patch that
leads to its target, which changes nothing. -/
structure Exposes (r : Reconciler) (s t : Service) (c : Cluster) : Prop where
  routed : r.strategy.routed s (c.snapshot r.strategy s.key.inNamespace) = []
  target : r.strategy.target s (c.snapshot r.strategy s.key.inNamespace) = t
  patched : c.effects (patchWrites s t) = .ok c
  outdated : c.outdated r.settings t s.key.inNamespace = []

theorem Exposes.planAdd (h : Exposes r s t c) :
    r.planAdd s (c.snapshot r.strategy s.key.inNamespace) = patchWrites s t := by
  simp only [r.planAdd_eq, h.routed, h.target, h.outdated, toRestart_nil, List.map_nil,
    List.append_nil, List.nil_append]

/-- The service that was recorded is exposed just as well. -/
theorem Exposes.of_target (h : Exposes r s t c) (halias : s.AliasIsFree) :
    Exposes r t t c ∧ Service.Alike s t := by
  obtain ⟨htarget, hrouted, halike⟩ := r.strategy.target_again halias
    (c.snapshot r.strategy s.key.inNamespace)
  rw [h.target] at htarget hrouted halike
  refine ⟨⟨?_, ?_, by rw [patchWrites_self]; rfl, ?_⟩, halike⟩
  · rw [halike.key, hrouted, h.routed]
  · rw [halike.key, htarget]
  · rw [halike.key, h.outdated]

namespace Stages

variable {routed recorded q : Cluster} (h : Stages r s t c routed recorded)
include h

/-- The routing object is settled wherever it is as it was recorded. -/
theorem settled (hingresses : q.ingresses = recorded.ingresses)
    (hroutes : q.routes = recorded.routes) :
    r.strategy.routed s (q.snapshot r.strategy s.key.inNamespace) = [] ∧
      r.strategy.target s (q.snapshot r.strategy s.key.inNamespace) = t := by
  have hsame := snapshot_congr (hingresses.trans h.same_but_services.ingresses)
    (hroutes.trans h.same_but_services.routes) r.strategy s.key.inNamespace
  -- a strategy reads the routing objects only, and those are as they were settled
  have hrouting := r.strategy.routing_congr s hsame.1 hsame.2
  rw [← h.routing_settled, ← h.target_settled, Strategy.routed, Strategy.target, hrouting]
  exact ⟨rfl, rfl⟩

/-- A service is exposed wherever it was recorded and nothing is outdated. -/
theorem exposes (hingresses : q.ingresses = recorded.ingresses)
    (hroutes : q.routes = recorded.routes) (hservices : q.services = recorded.services)
    (houtdated : q.outdated r.settings t s.key.inNamespace = []) :
    Exposes r s t q where
  routed := (h.settled hingresses hroutes).1
  target := (h.settled hingresses hroutes).2
  patched := (patchWrites_settle h.record).2 q hservices
  outdated := houtdated

end Stages

/-- What is planned for an exposed service exposes it. -/
theorem exposes_of_planAdd {after : Cluster}
    (hlines : Propagation.StaysOnLines r.settings
      (r.strategy.target s (c.snapshot r.strategy s.key.inNamespace)))
    (h : c.effects (r.planAdd s (c.snapshot r.strategy s.key.inNamespace)) = .ok after) :
    Exposes r s (r.strategy.target s (c.snapshot r.strategy s.key.inNamespace)) after := by
  obtain ⟨t, routed, recorded, hstages, rfl⟩ := effects_planAdd h
  rw [hstages.target] at hlines ⊢
  exact hstages.exposes rfl rfl rfl (outdated_configured hlines _)

/-- After a plan for an exposed service, there is nothing left to do but to repeat its patch. -/
theorem planAdd_settles {after : Cluster}
    (hlines : Propagation.StaysOnLines r.settings
      (r.strategy.target s (c.snapshot r.strategy s.key.inNamespace)))
    (h : c.effects (r.planAdd s (c.snapshot r.strategy s.key.inNamespace)) = .ok after) :
    r.planAdd s (after.snapshot r.strategy s.key.inNamespace) ⊆
      r.planAdd s (c.snapshot r.strategy s.key.inNamespace) ∧
      after.effects (r.planAdd s (after.snapshot r.strategy s.key.inNamespace)) = .ok after := by
  have hexposes := exposes_of_planAdd hlines h
  rw [hexposes.planAdd]
  -- the patch leads from the service of the notification, so it is planned as often as that is
  -- delivered
  refine ⟨fun w hw => ?_, hexposes.patched⟩
  simp only [r.planAdd_eq, List.mem_append]
  exact .inl (.inl (.inr hw))

/-- What is planned for a stored service that is exposed turns it into its target. -/
theorem get?_services_of_planAdd (hstored : c.services.get? s.key = some s) {after : Cluster}
    (h : c.effects (r.planAdd s (c.snapshot r.strategy s.key.inNamespace)) = .ok after) :
    after.services.get? s.key =
      some (r.strategy.target s (c.snapshot r.strategy s.key.inNamespace)) := by
  obtain ⟨t, routed, recorded, hstages, rfl⟩ := effects_planAdd h
  rw [hstages.target]
  exact hstages.get?_services hstored

theorem planRemove_eq (r : Reconciler) (s : Service) (snapshot : Snapshot) :
    r.planRemove s snapshot = r.strategy.unrouting s snapshot ++ patchWrites s s.clearUrl := by
  rw [Reconciler.planRemove, Strategy.remove_eq]
  rfl

/-- After a plan for a service that is not exposed any more, there is nothing left to do but to
repeat its patch. -/
theorem planRemove_settles {after : Cluster}
    (h : c.effects (r.planRemove s (c.snapshot r.strategy s.key.inNamespace)) = .ok after) :
    r.planRemove s (after.snapshot r.strategy s.key.inNamespace) ⊆
        r.planRemove s (c.snapshot r.strategy s.key.inNamespace) ∧
      after.effects (r.planRemove s (after.snapshot r.strategy s.key.inNamespace)) = .ok after := by
  obtain ⟨unrouted, hunrouting, -, hsettled⟩ := r.strategy.unrouting_settles s
  rw [planRemove_eq] at h
  obtain ⟨unrouted', hunrouting', h⟩ := effects_append_eq_ok_iff.1 h
  obtain rfl : unrouted = unrouted' := Except.ok.inj (hunrouting.symm.trans hunrouting')
  obtain ⟨hsame, hagain⟩ := patchWrites_settle h
  have hsnapshot := snapshot_congr hsame.ingresses hsame.routes r.strategy s.key.inNamespace
  rw [planRemove_eq, planRemove_eq, r.strategy.unrouting_congr s hsnapshot.1 hsnapshot.2, hsettled,
    List.nil_append]
  exact ⟨List.subset_append_right _ _, hagain after rfl⟩

/-- The writes that a service which is gone leaves to be made. -/
theorem filter_planRemove (r : Reconciler) (s : Service) (snapshot : Snapshot) :
    (r.planRemove s snapshot).filter (fun w => !w.isServicePatch) =
      r.strategy.unrouting s snapshot := by
  rw [planRemove_eq, List.filter_append, filter_patchWrites, List.append_nil, List.filter_eq_self]
  intro w hw
  have hkind := r.strategy.kind_unrouting s snapshot w hw
  have hne := r.strategy.routingKind?_ne_service
  cases w <;> first | rfl | exact absurd hkind hne

end Cluster

end ServiceExposure
