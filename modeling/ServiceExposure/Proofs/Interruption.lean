import ServiceExposure.Proofs.Confinement

/-! # Interrupted plans

A plan may stop after any of its writes. It is made in stages: the routing object, the record on the
service, the configuration maps and the deployments that read them. Nothing of a later stage is
written before all of the earlier ones (`Reconciler.pairwise_plan`), so what is recorded when a plan
stops never points to what is not there. -/

namespace ServiceExposure

/-! ## Stages of writes -/

namespace Write

/-- The stage of a plan that a write belongs to. -/
def stage : Write → Nat
  | createIngress _ | replaceIngress _ | deleteIngress _
  | createRoute _ | replaceRoute _ | deleteRoute _ => 0
  | patchService _ _ => 1
  | replaceConfigMap _ => 2
  | replaceDeployment _ => 3

/-- The object that is written, told apart by kind and key. -/
def object (w : Write) : ObjectKind × ObjectKey := (w.kind, w.key)

theorem stage_of_routing {st : Strategy} {w : Write} (h : st.routingKind? = some w.kind) :
    w.stage = 0 := by
  cases w
  case patchService | replaceConfigMap | replaceDeployment => cases st <;>
    simp [Strategy.routingKind?, kind] at h
  all_goals rfl

theorem stage_of_patchWrites (observed desired : Service) :
    ∀ w ∈ patchWrites observed desired, w.stage = 1 := by
  intro w hw
  obtain ⟨patch, rfl⟩ := exists_of_mem_patchWrites hw
  rfl

/-- Objects of different stages are of different kinds. -/
theorem object_ne_of_stage_lt {v w : Write} (h : v.stage < w.stage) : v.object ≠ w.object := by
  intro heq
  have hkind : v.kind = w.kind := congrArg Prod.fst heq
  cases v <;> cases w <;> first | exact absurd h (Nat.lt_irrefl _) | cases hkind

/-- What was made of writes in order includes whatever belongs to an earlier stage than some write
that was made. -/
theorem mem_take_of_stage_lt {ws : List Write} (h : ws.Pairwise fun v w => v.stage ≤ w.stage)
    {k : Nat} {v w : Write} (hw : w ∈ ws.take k) (hv : v ∈ ws) (hlt : v.stage < w.stage) :
    v ∈ ws.take k := by
  rw [← List.take_append_drop k ws] at h hv
  rcases List.mem_append.1 hv with hmade | hleft
  · exact hmade
  · have hle : w.stage ≤ v.stage := (List.pairwise_append.1 h).2.2 w hw v hleft
    exact absurd hlt (Nat.not_lt.2 hle)

end Write

/-! ## Named objects -/

/-- Whether objects lie under their own names. -/
def Named {α : Type} [Resource α] (objects : Dict String α) : Prop :=
  ∀ name object, objects.get? name = some object → Resource.displayName object = name

namespace Named

variable {α : Type} [Resource α]

theorem byName (objects : List α) : Named (Resource.byName objects) := by
  intro name object hget
  rw [Resource.byName, Dict.get?_ofList] at hget
  obtain ⟨o, -, hentry⟩ := List.mem_map.1 (List.mem_reverse.1 (Entries.mem_of_get? hget))
  obtain ⟨hname, rfl⟩ := Prod.mk.inj hentry
  exact hname

theorem pairwise {objects : Dict String α} (h : Named objects) :
    objects.toList.Pairwise fun a b => Resource.displayName a.2 ≠ Resource.displayName b.2 := by
  refine objects.ascending.imp_of_mem fun ha hb hbefore => ?_
  rw [h _ _ (Dict.get?_of_mem ha), h _ _ (Dict.get?_of_mem hb)]
  exact before_ne hbefore

end Named

namespace Snapshot

/-- Whether each object of a namespace lies under its own name. -/
structure Named (snapshot : Snapshot) : Prop where
  ingresses : ServiceExposure.Named snapshot.ingresses
  routes : ServiceExposure.Named snapshot.routes
  configMaps : ServiceExposure.Named snapshot.configMaps
  deployments : ServiceExposure.Named snapshot.deployments

end Snapshot

/-- A snapshot that was loaded has each object under its own name. -/
theorem Cluster.named_snapshot (c : Cluster) (st : Strategy) (ns : String) :
    (c.snapshot st ns).Named :=
  ⟨.byName _, .byName _, .byName _, .byName _⟩

/-- Of configuration maps with names of their own, those that change have names of their own. -/
theorem Propagation.pairwise_changed {settings : Settings} {s : Service}
    {configMaps : Dict String ConfigMap} (h : Named configMaps) :
    (changed settings s configMaps).Pairwise fun m m' =>
      m.metadata.displayName ≠ m'.metadata.displayName := by
  refine List.Pairwise.filterMap _ (fun a a' hne m hm m' hm' => ?_) h.pairwise
  have hname {e : String × ConfigMap} {m : ConfigMap}
      (hm : (if (e.2.edit (edits settings s e.1 e.2)).data = e.2.data then none
        else some (e.2.edit (edits settings s e.1 e.2))) = some m) :
      m.metadata.displayName = Resource.displayName e.2 := by
    split at hm
    · cases hm
    · rw [← Option.some.inj hm, ConfigMap.metadata_edit]
      rfl
  rw [hname hm, hname hm']
  exact hne

theorem Rollout.pairwise_rolledOut {ds : Dict String Deployment} (h : Named ds)
    (ms : List ConfigMap) :
    (rolledOut ms ds).Pairwise fun d d' => d.metadata.displayName ≠ d'.metadata.displayName := by
  -- stamps leave the names alone
  have hrolled : Named (rollAll ms ds).1 := by
    intro name d hget
    rw [get?_rollAll] at hget
    obtain ⟨old, hold, rfl⟩ := Option.map_eq_some_iff.1 hget
    exact (congrArg Metadata.displayName (metadata_stampAll ms old)).trans (h name old hold)
  exact List.pairwise_map.2 (hrolled.pairwise.filter _)

/-! ## Plans in stages -/

namespace Strategy

/-- At most one routing object is written. -/
theorem pairwise_routed (st : Strategy) (s : Service) (snapshot : Snapshot)
    (R : Write → Write → Prop) :
    (st.routed s snapshot).Pairwise R := by
  cases hrouting : st.routing s snapshot with
  | error failure => simp [routed, hrouting]
  | ok ws =>
    rw [routed_of_routing hrouting]
    cases st with
    | ingress st =>
      rcases IngressStrategy.routingWrites_eq_ok hrouting with ⟨-, rfl⟩ | ⟨-, port, -, rfl⟩
      · exact List.Pairwise.nil
      · exact List.pairwise_singleton _ _
    | nodePort nodeIP => exact nodePort_routing_eq_nil hrouting ▸ List.Pairwise.nil
    | loadBalancer => exact Except.ok.inj hrouting ▸ List.Pairwise.nil
    | route st =>
      obtain ⟨port, -, rfl⟩ := RouteStrategy.routing_eq_ok_iff.1 hrouting
      rw [RouteStrategy.routingWrites.eq_def]
      split
      · exact List.pairwise_singleton _ _
      · split
        · exact List.Pairwise.nil
        · exact List.pairwise_singleton _ _

theorem pairwise_unrouting (st : Strategy) (s : Service) (snapshot : Snapshot)
    (R : Write → Write → Prop) :
    (st.unrouting s snapshot).Pairwise R := by
  cases st with
  | ingress st | route st =>
    rw [unrouting]
    split
    · exact List.pairwise_singleton _ _
    · exact List.Pairwise.nil
  | nodePort nodeIP | loadBalancer => exact List.Pairwise.nil

theorem stage_routed (st : Strategy) (s : Service) (snapshot : Snapshot) :
    ∀ w ∈ st.routed s snapshot, w.stage = 0 := by
  intro w hw
  cases hrouting : st.routing s snapshot with
  | error failure => simp [routed, hrouting] at hw
  | ok ws =>
    exact Write.stage_of_routing (kind_routing hrouting w (routed_of_routing hrouting ▸ hw))

end Strategy

theorem pairwise_patchWrites (observed desired : Service) (R : Write → Write → Prop) :
    (patchWrites observed desired).Pairwise R := by
  rw [patchWrites]
  cases Exposure.servicePatch? observed desired with
  | none => exact List.Pairwise.nil
  | some patch => exact List.pairwise_singleton _ _

namespace Reconciler

variable {r : Reconciler} {n : Notification} {s : Service} {snapshot : Snapshot}
  {R : Write → Write → Prop}

/-- What holds between writes of different stages, between configuration maps and between
deployments, holds between the writes of a plan. -/
theorem pairwise_planAdd (hstages : ∀ v w : Write, v.stage < w.stage → R v w)
    (hmaps : (Propagation.changed r.settings (r.strategy.target s snapshot)
      snapshot.configMaps).Pairwise fun m m' => R (.replaceConfigMap m) (.replaceConfigMap m'))
    (hdeployments : ∀ ms, (Rollout.rolledOut ms snapshot.deployments).Pairwise fun d d' =>
      R (.replaceDeployment d) (.replaceDeployment d')) :
    (r.planAdd s snapshot).Pairwise R := by
  have hrouted := r.strategy.stage_routed s snapshot
  have hpatch := Write.stage_of_patchWrites s (r.strategy.target s snapshot)
  simp only [r.planAdd_of_snapshot, List.pairwise_append, List.pairwise_map,
    List.mem_append, List.mem_map]
  refine ⟨⟨⟨r.strategy.pairwise_routed s snapshot R, pairwise_patchWrites _ _ R, ?_⟩, hmaps, ?_⟩,
    hdeployments _, ?_⟩
  · exact fun v hv w hw => hstages v w (by rw [hrouted v hv, hpatch w hw]; decide)
  · rintro v (hv | hv) - ⟨m, -, rfl⟩
    · exact hstages v _ (by rw [hrouted v hv]; exact Nat.zero_lt_two)
    · exact hstages v _ (by rw [hpatch v hv]; exact Nat.one_lt_two)
  · rintro v ((hv | hv) | ⟨m, -, rfl⟩) - ⟨d, -, rfl⟩
    · exact hstages v _ (by rw [hrouted v hv]; exact Nat.zero_lt_succ 2)
    · exact hstages v _ (by rw [hpatch v hv]; exact Nat.lt_add_of_pos_right Nat.two_pos)
    · exact hstages _ _ (Nat.lt_succ_self 2)

theorem pairwise_planRemove (hstages : ∀ v w : Write, v.stage < w.stage → R v w) :
    (r.planRemove s snapshot).Pairwise R := by
  rw [Cluster.planRemove_eq, List.pairwise_append]
  refine ⟨r.strategy.pairwise_unrouting s snapshot R, pairwise_patchWrites _ _ R,
    fun v hv w hw => hstages v w ?_⟩
  rw [Write.stage_of_routing (r.strategy.kind_unrouting s snapshot v hv),
    Write.stage_of_patchWrites _ _ w hw]
  exact Nat.zero_lt_one

theorem pairwise_plan (hstages : ∀ v w : Write, v.stage < w.stage → R v w)
    (hmaps : ∀ t, (Propagation.changed r.settings t snapshot.configMaps).Pairwise
      fun m m' => R (.replaceConfigMap m) (.replaceConfigMap m'))
    (hdeployments : ∀ ms, (Rollout.rolledOut ms snapshot.deployments).Pairwise
      fun d d' => R (.replaceDeployment d) (.replaceDeployment d')) :
    (r.plan n snapshot).Pairwise R := by
  rcases Cluster.plan_cases r n snapshot with hnone | ⟨-, hadd⟩ | ⟨-, hremove⟩
  · exact hnone ▸ List.Pairwise.nil
  · exact hadd ▸ pairwise_planAdd hstages (hmaps _) hdeployments
  · exact (pairwise_planRemove hstages).sublist hremove

/-- No write of a plan is followed by one of an earlier stage. -/
theorem inOrder_plan (r : Reconciler) (n : Notification) (snapshot : Snapshot) :
    (r.plan n snapshot).Pairwise fun v w => v.stage ≤ w.stage :=
  pairwise_plan (fun _ _ hlt => Nat.le_of_lt hlt)
    (fun _ => List.pairwise_of_forall_mem_list fun _ _ _ _ => Nat.le_refl 2)
    (fun _ => List.pairwise_of_forall_mem_list fun _ _ _ _ => Nat.le_refl 3)

/-- A plan writes each object once. -/
theorem nodup_objects_plan (r : Reconciler) (n : Notification) (h : snapshot.Named) :
    ((r.plan n snapshot).map Write.object).Nodup := by
  refine List.pairwise_map.2
    (pairwise_plan (fun _ _ hlt => Write.object_ne_of_stage_lt hlt) (fun t => ?_) fun ms => ?_)
  · refine (Propagation.pairwise_changed h.configMaps).imp fun hne heq => hne ?_
    exact congrArg ObjectKey.name (Prod.mk.inj heq).2
  · refine (Rollout.pairwise_rolledOut h.deployments ms).imp fun hne heq => hne ?_
    exact congrArg ObjectKey.name (Prod.mk.inj heq).2

end Reconciler

/-! ## Fingerprints in environments -/

namespace Rollout

/-- Whether no entry of an environment is gone, and each is the one at its place before or holds the
fingerprint of one of the configuration maps. -/
structure Refreshes (ms : List ConfigMap) (old new : List EnvVar) : Prop where
  length_le : old.length ≤ new.length
  entry : ∀ (i : Nat) (e : EnvVar), new[i]? = some e →
    old[i]? = some e ∨ ∃ m ∈ ms, e.name = variableOf m ∧ e.value = some m.fingerprint

namespace Refreshes

variable {ms : List ConfigMap} {m : ConfigMap}

theorem refl (env : List EnvVar) : Refreshes ms env env := ⟨Nat.le_refl _, fun _ _ h => .inl h⟩

theorem trans {first second third : List EnvVar} (h : Refreshes ms first second)
    (h' : Refreshes ms second third) :
    Refreshes ms first third where
  length_le := h.length_le.trans h'.length_le
  entry i e he := by
    rcases h'.entry i e he with hsecond | hfingerprint
    · exact h.entry i e hsecond
    · exact .inr hfingerprint

/-- To set the variable of a map changes one entry, or adds one. -/
theorem setVariable (hm : m ∈ ms) (env : List EnvVar) :
    Refreshes ms env (Rollout.setVariable (variableOf m) m.fingerprint env) := by
  induction env with
  | nil =>
    refine ⟨Nat.zero_le _, fun i (e : EnvVar) he => .inr ⟨m, hm, ?_⟩⟩
    rw [List.mem_singleton.1 (List.mem_of_getElem? he)]
    exact ⟨rfl, rfl⟩
  | cons first env ih =>
    rw [Rollout.setVariable]
    split
    · next hname =>
      refine ⟨Nat.le_refl _, fun i e he => ?_⟩
      cases i with
      | zero =>
        obtain rfl := Option.some.inj he
        split
        · exact .inl rfl
        · exact .inr ⟨m, hm, hname, rfl⟩
      | succ i => exact .inl he
    · refine ⟨Nat.succ_le_succ ih.length_le, fun i e he => ?_⟩
      cases i with
      | zero => exact .inl he
      | succ i => exact ih.entry i e he

end Refreshes

end Rollout

namespace Deployment

/-- Whether two deployments differ in fingerprints of the configuration maps only, in the
environments of containers. -/
structure RefreshedBy (ms : List ConfigMap) (d d' : Deployment) : Prop where
  sameBut : d.SameBut (ms.map Rollout.variableOf) d'
  containers : ∀ (i : Nat) (container' : Container), d'.containers[i]? = some container' →
    ∃ container, d.containers[i]? = some container ∧
      Rollout.Refreshes ms (container.env.getD []) (container'.env.getD [])

namespace RefreshedBy

open Rollout

variable {ms : List ConfigMap} {m : ConfigMap} {d : Deployment}

theorem refl (d : Deployment) : RefreshedBy ms d d :=
  ⟨rfl, fun _ container h => ⟨container, h, .refl _⟩⟩

theorem trans {d' d'' : Deployment} (h : RefreshedBy ms d d') (h' : RefreshedBy ms d' d'') :
    RefreshedBy ms d d'' where
  sameBut := h'.sameBut.trans h.sameBut
  containers i container'' hcontainer'' := by
    obtain ⟨container', hcontainer', hsecond⟩ := h'.containers i container'' hcontainer''
    obtain ⟨container, hcontainer, hfirst⟩ := h.containers i container' hcontainer'
    exact ⟨container, hcontainer, hfirst.trans hsecond⟩

theorem stamp (hm : m ∈ ms) (d : Deployment) : RefreshedBy ms d (stamp m d) where
  sameBut := sameBut_stamp fun _ => List.mem_map_of_mem hm
  containers i container' hcontainer' := by
    rw [Rollout.stamp] at hcontainer'
    split at hcontainer'
    · rw [containers_mapContainers, List.getElem?_map] at hcontainer'
      obtain ⟨container, hcontainer, rfl⟩ := Option.map_eq_some_iff.1 hcontainer'
      exact ⟨container, hcontainer, .setVariable hm _⟩
    · exact ⟨container', hcontainer', .refl _⟩

/-- Each of several rolls adds fingerprints to those of the rolls before. -/
theorem stampAll {rolls : List ConfigMap} (h : rolls ⊆ ms) (d : Deployment) :
    RefreshedBy ms d (stampAll rolls d) := by
  induction rolls generalizing d with
  | nil => exact refl d
  | cons m rolls ih =>
    exact (stamp (h List.mem_cons_self) d).trans
      (ih (fun m hm => h (List.mem_cons_of_mem _ hm)) (Rollout.stamp m d))

end RefreshedBy

end Deployment

/-! ## Deployments in plans -/

namespace Reconciler

variable {r : Reconciler} {n : Notification} {snapshot : Snapshot} {d' : Deployment}

/-- A deployment that is written is one of the snapshot with the fingerprints of the configuration
maps that are written. -/
theorem exists_old_of_mem_plan (h : .replaceDeployment d' ∈ r.plan n snapshot) : ∃ name d,
    snapshot.deployments.get? name = some d ∧
      d' = Rollout.stampAll ((r.plan n snapshot).filterMap Write.configMap?) d := by
  rcases Cluster.plan_cases r n snapshot with hnone | ⟨-, hadd⟩ | ⟨-, hremove⟩
  · rw [hnone] at h
    exact absurd h List.not_mem_nil
  · rw [hadd, Cluster.filterMap_planAdd_of_snapshot]
    simp only [hadd, r.planAdd_of_snapshot, List.mem_append, List.mem_map] at h
    -- deployments are written in the last stage only
    rcases h with ((h | h) | ⟨m, -, h⟩) | ⟨d, hd, h⟩
    · cases r.strategy.stage_routed _ _ _ h
    · cases Write.stage_of_patchWrites _ _ _ h
    · cases h
    · cases h
      obtain ⟨name, old, hget, -, hold⟩ := Rollout.mem_rolledOut.1 hd
      exact ⟨name, old, hget, hold.symm⟩
  · have hmem := hremove.subset h
    rw [Cluster.planRemove_eq, List.mem_append] at hmem
    rcases hmem with h | h
    · cases Write.stage_of_routing (r.strategy.kind_unrouting _ _ _ h)
    · cases Write.stage_of_patchWrites _ _ _ h

/-- By the time that a deployment is written, all configuration maps are. -/
theorem filterMap_of_plan_eq {before rest : List Write}
    (h : r.plan n snapshot = before ++ .replaceDeployment d' :: rest) :
    (r.plan n snapshot).filterMap Write.configMap? = before.filterMap Write.configMap? := by
  have horder := r.inOrder_plan n snapshot
  rw [h, List.pairwise_append, List.pairwise_cons] at horder
  have hrest : rest.filterMap Write.configMap? = [] := by
    refine List.filterMap_eq_nil_iff.2 fun w hw => Write.configMap?_eq_none fun hkind => ?_
    have hle : 3 ≤ w.stage := horder.2.1.1 w hw
    cases w <;> cases hkind
    exact absurd hle (Nat.not_succ_le_self 2)
  rw [h, List.filterMap_append, List.filterMap_cons, hrest]
  exact List.append_nil _

end Reconciler

/-! ## A plan of all stages -/

namespace Sample

open Cluster Rollout

theorem routed_crowded :
    reconciler.strategy.routed web (crowded.snapshot reconciler.strategy "ns1") =
    [.createIngress (strategy.ingressFor web none 80)] := rfl

theorem toRestart_crowded :
    crowded.toRestart [answered "web-config" "first", answered "web.config" "second"] "ns1" =
      [stampAll [answered "web-config" "first", answered "web.config" "second"] dashboard] := by
  decide

/-- The ingress is created, the URL is recorded, both configuration maps and then the deployment are
replaced. -/
theorem plan_crowded_eq :
    ∃ patch, reconciler.plan (.added web) (crowded.snapshot reconciler.strategy "ns1") =
    [.createIngress (strategy.ingressFor web none 80), .patchService web.key patch,
      .replaceConfigMap (answered "web-config" "first"),
        .replaceConfigMap (answered "web.config" "second"),
      .replaceDeployment (stampAll [answered "web-config" "first",
        answered "web.config" "second"] dashboard)] := by
  obtain ⟨host, htarget⟩ := target_web (crowded.snapshot reconciler.strategy "ns1")
  have hurl := Service.exposedUrl?_recordUrl aliasIsFree_web.ne_exposeUrl host "http"
  have hne : web ≠ web.recordUrl host "http" := fun heq => by
    rw [← heq] at hurl
    cases hurl
  obtain ⟨patch, hpatch⟩ :=
    Option.ne_none_iff_exists'.1 (mt Service.servicePatch?_eq_none_iff.1 hne)
  have houtdated := outdated_target_web
  rw [htarget] at houtdated
  refine ⟨patch, ?_⟩
  simp only [plan_web, reconciler.planAdd_eq, htarget, houtdated, routed_crowded, toRestart_crowded,
    patchWrites, hpatch, List.map_cons, List.map_nil, Option.map_some, Option.toList_some,
    List.cons_append, List.nil_append]

end Sample

/-! ## Interruption -/

/-- However many writes of a plan are made, they include all that belong to earlier stages: with the
record on the service the routing object is written, and with a configuration map the record. A
deployment that is written differs from the one of the snapshot in fingerprints of configuration
maps that are written before. And no object is written twice, as the objects of a snapshot lie under
their names (`Cluster.named_snapshot`). -/
theorem interrupted_plan_consistent (r : Reconciler) (n : Notification) (snapshot : Snapshot)
    (k : Nat) :
    let made := (r.plan n snapshot).take k
    (∀ w ∈ made, ∀ v ∈ r.plan n snapshot, v.stage < w.stage → v ∈ made) ∧
    (∀ before d' rest, made = before ++ .replaceDeployment d' :: rest → ∃ name d,
      snapshot.deployments.get? name = some d ∧
        d.RefreshedBy (before.filterMap Write.configMap?) d') ∧
    (snapshot.Named → (made.map Write.object).Nodup) := by
  intro made
  refine ⟨fun w hw v hv hlt => Write.mem_take_of_stage_lt (r.inOrder_plan n snapshot) hw hv hlt, ?_,
    fun hnamed => ?_⟩
  · intro before d' rest hmade
    have hplan : r.plan n snapshot = before ++ .replaceDeployment d' ::
        (rest ++ (r.plan n snapshot).drop k) := by
      rw [← List.cons_append, ← List.append_assoc, ← hmade, List.take_append_drop]
    have hmem : .replaceDeployment d' ∈ r.plan n snapshot := by
      rw [hplan]
      exact List.mem_append_right _ List.mem_cons_self
    obtain ⟨name, d, hget, rfl⟩ := Reconciler.exists_old_of_mem_plan hmem
    refine ⟨name, d, hget, ?_⟩
    rw [Reconciler.filterMap_of_plan_eq hplan]
    exact .stampAll (List.Subset.refl _) d
  · exact (r.nodup_objects_plan n hnamed).sublist ((List.take_sublist k _).map _)

open Sample in
/-- A plan that stops between the configuration maps has written the ingress and the URL. One that
stops after the deployment has given it the fingerprints of both. -/
theorem interrupted_plan_consistent_crowded :
    let plan := reconciler.plan (.added web) (crowded.snapshot reconciler.strategy "ns1")
    .replaceConfigMap (answered "web-config" "first") ∈ plan.take 3 ∧ 3 < plan.length ∧
    (∀ v ∈ plan, v.stage < 2 → v ∈ plan.take 3) ∧
    (∃ before d', plan.take 5 = before ++ [.replaceDeployment d'] ∧
      dashboard.RefreshedBy (before.filterMap Write.configMap?) d') ∧
    ((plan.take 5).map Write.object).Nodup := by
  intro plan
  obtain ⟨patch, hplan⟩ := plan_crowded_eq
  have hfirst : .replaceConfigMap (answered "web-config" "first") ∈ plan.take 3 := by
    simp only [plan, hplan, List.take_succ_cons, List.mem_cons, true_or, or_true]
  have hlength : 3 < plan.length := by
    simp only [plan, hplan, List.length_cons]
    decide
  obtain ⟨hstages, -, -⟩ :=
    interrupted_plan_consistent reconciler (.added web)
      (crowded.snapshot reconciler.strategy "ns1") 3
  obtain ⟨-, hdeployments, hnodup⟩ :=
    interrupted_plan_consistent reconciler (.added web)
      (crowded.snapshot reconciler.strategy "ns1") 5
  have hmade : plan.take 5 = plan.take 4 ++
      [.replaceDeployment (Rollout.stampAll [answered "web-config" "first",
        answered "web.config" "second"] dashboard)] := by
    simp only [plan, hplan]
    rfl
  obtain ⟨name, d, hget, hrefreshed⟩ := hdeployments _ _ _ hmade
  have honly : (crowded.snapshot reconciler.strategy "ns1").deployments.toList =
      [("dashboard", dashboard)] := by decide
  obtain rfl : d = dashboard := by
    have hentry := Entries.mem_of_get? hget
    rw [honly] at hentry
    exact congrArg Prod.snd (List.mem_singleton.1 hentry)
  exact ⟨hfirst, hlength, fun v hv hlt => hstages _ hfirst v hv hlt, ⟨_, _, hmade, hrefreshed⟩,
    hnodup (crowded.named_snapshot _ _)⟩

end ServiceExposure
