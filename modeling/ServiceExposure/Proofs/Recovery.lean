import ServiceExposure.Proofs.Redelivery

/-! # Failed deliveries

A delivery stops at the first write that fails. The change that it has made by then, if any, is
delivered in turn, and that delivery takes up the work where the first one stopped
(`Cluster.resumes`) - but for the deployments, which are restarted for the configuration maps that a
delivery writes, and for no others. -/

namespace ServiceExposure

namespace Cluster

/-! ## Where deliveries stop -/

/-- Writes of one kind are made together or not at all. -/
theorem run_apply_of_kind {c after : Cluster} {kind : ObjectKind} {ws : List Write}
    (hkind : ∀ w ∈ ws, w.kind = kind) (h : c.effects ws = .ok after) :
    run (store.apply ws) c = (.ok (), { after with log := ws.reverse ++ c.log }) ∨
      ∃ failure, run (store.apply ws) c = (.error failure, c) := by
  cases hfails : c.fails (.write kind) with
  | false => exact .inl (run_apply_of_allowed (fun w hw => by simp [allows, hkind w hw, hfails]) h)
  | true =>
    cases ws with
    | nil => exact .inl (run_apply_of_allowed (by simp) h)
    | cons w ws =>
      have hforbidden : c.allows w = false := by simp [allows, hkind w, hfails]
      rw [run_apply_cons, write_of_not_allowed hforbidden]
      exact .inr ⟨_, rfl⟩

theorem run_apply_append (ws more : List Write) (c : Cluster) :
    run (store.apply (ws ++ more)) c =
      match run (store.apply ws) c with
      | (.ok (), c) => run (store.apply more) c
      | (.error failure, c) => (.error failure, c) := by
  induction ws generalizing c with
  | nil => rfl
  | cons w ws ih =>
    rw [List.cons_append, run_apply_cons, run_apply_cons]
    rcases c.write w with ⟨failure | ⟨⟩, c⟩
    · rfl
    · exact ih c

/-- A delivery that stops does so before the writes of a kind or after them. -/
theorem stops_at_kind {c after stopped : Cluster} (kind : ObjectKind) {ws more : List Write}
    (log : List Write) {failure : Failure} (hkind : ∀ w ∈ ws, w.kind = kind)
    (h : c.effects ws = .ok after)
    (hrun : run (store.apply (ws ++ more)) { c with log } = (.error failure, stopped)) :
    (∃ log, stopped = { c with log }) ∨
      ∃ log, run (store.apply more) { after with log } = (.error failure, stopped) := by
  rw [run_apply_append] at hrun
  -- the failing calls are told apart by kind, so these writes are all made or none is
  rcases run_apply_of_kind hkind (effects_with_log.2 ⟨after, h, rfl⟩)
    with hmade | ⟨failure', hfailed⟩
  · rw [hmade] at hrun
    exact .inr ⟨_, hrun⟩
  · rw [hfailed] at hrun
    exact .inl ⟨log, (Prod.mk.inj hrun).2.symm⟩

/-- The kind of object that a strategy routes with; those without one write nothing but services. -/
def routingKind : Strategy → ObjectKind
  | .ingress _ => .ingress
  | .route _ => .route
  | .nodePort _ | .loadBalancer => .service

theorem kind_routed (st : Strategy) (s : Service) (snapshot : Snapshot) :
    ∀ w ∈ st.routed s snapshot, w.kind = routingKind st := by
  intro w hw
  cases hrouting : st.routing s snapshot with
  | error failure => simp [Strategy.routed, hrouting] at hw
  | ok ws =>
    rw [Strategy.routed_of_routing hrouting] at hw
    have hkind := Strategy.kind_routing hrouting w hw
    cases st <;> simp_all [Strategy.routingKind?, routingKind]

theorem kind_patchWrites (observed desired : Service) :
    ∀ w ∈ patchWrites observed desired, w.kind = .service := by
  intro w hw
  rw [patchWrites] at hw
  cases hpatch : Exposure.servicePatch? observed desired with
  | none => simp [hpatch] at hw
  | some patch =>
    rw [hpatch] at hw
    rw [List.mem_singleton.1 hw]
    rfl

namespace Stages

variable {r : Reconciler} {s t : Service} {c routed recorded : Cluster}
  (h : Stages r s t c routed recorded)
include h

/-- The clusters in which writes can stop. -/
theorem stops {failure : Failure} {stopped : Cluster}
    (hrun : run (store.apply (r.planAdd s (c.snapshot r.strategy s.key.inNamespace))) c =
      (.error failure, stopped)) :
    ∃ q log, stopped = { q with log } ∧
      (q ∈ [c, routed, recorded] ∨ q = recorded.configured r.settings t s.key.inNamespace) := by
  rw [h.planAdd] at hrun
  -- one kind after the other: routing object, service, configuration maps, deployments
  rcases stops_at_kind (routingKind r.strategy) c.log (kind_routed _ _ _) h.routing hrun with
    ⟨log, hstopped⟩ | ⟨log, hrun⟩
  · exact ⟨c, log, hstopped, .inl (by simp)⟩
  rcases stops_at_kind .service log (kind_patchWrites _ _) h.record hrun
    with ⟨log, hstopped⟩ | ⟨log, hrun⟩
  · exact ⟨routed, log, hstopped, .inl (by simp)⟩
  rcases stops_at_kind .configMap log (by simp [Write.kind]) (effects_outdated ..) hrun with
    ⟨log, hstopped⟩ | ⟨log, hrun⟩
  · exact ⟨recorded, log, hstopped, .inl (by simp)⟩
  -- the deployments come last, so a run that gets past them has not stopped
  rw [← List.append_nil (List.map _ _)] at hrun
  rcases stops_at_kind .deployment log (by simp [Write.kind]) (effects_toRestart ..) hrun with
    ⟨log, hstopped⟩ | ⟨log, hrun⟩
  · exact ⟨_, log, hstopped, .inr rfl⟩
  · cases hrun

/-- A delivery stops where its writes stop, or does not get to them. -/
theorem delivery_stops {n : Notification} (hn : n.Exposes s) {failure : Failure} {stopped : Cluster}
    (hrun : run (r.handle store n) c = (.error failure, stopped)) :
    r.allows s.name ∧ ∃ q log, stopped = { q with log } ∧
      (q ∈ [c, routed, recorded] ∨ q = recorded.configured r.settings t s.key.inNamespace) := by
  obtain ⟨hservice, hwants, hplan⟩ := r.plan_of_exposes hn (c.snapshot r.strategy s.key.inNamespace)
  cases hallows : r.allows s.name with
  | false =>
    rw [run_handle_of_not_wants (hwants.trans hallows)] at hrun
    cases hrun
  | true =>
    refine ⟨rfl, ?_⟩
    cases hlists : c.lists r.strategy with
    | false =>
      obtain ⟨failure', hfailed⟩ := run_handle_of_not_lists (hwants.trans hallows) hlists
      rw [hfailed] at hrun
      exact ⟨c, c.log, (Prod.mk.inj hrun).2.symm, .inl (by simp)⟩
    | true =>
      rw [run_handle (hwants.trans hallows) hlists, hservice, hplan hallows] at hrun
      obtain ⟨hresult, hstate⟩ := Prod.mk.inj hrun
      cases happly :
          run (store.apply (r.planAdd s (c.snapshot r.strategy s.key.inNamespace))) c with
      | mk result state =>
        rw [happly] at hresult hstate
        cases result with
        | ok done => cases hresult
        | error failure' => exact h.stops (happly.trans (by rw [← hstate]))

end Stages

end Cluster

/-! ## Where they are taken up -/

namespace Cluster

variable {r : Reconciler} {s t : Service} {c routed recorded : Cluster}

/-- A service that was recorded is as it is to be, and only its configuration maps and deployments
are left. -/
theorem Stages.recorded_again (h : Stages r s t c routed recorded) (halias : s.AliasIsFree) :
    Stages r t t recorded recorded recorded ∧ Service.Alike s t := by
  obtain ⟨htarget, hrouted, halike⟩ :=
    r.strategy.target_again halias (recorded.snapshot r.strategy s.key.inNamespace)
  obtain ⟨hsettled, hsame⟩ := h.settled (q := recorded) rfl rfl
  rw [hsame] at htarget hrouted halike
  rw [← halike.key] at htarget hrouted hsettled
  rw [hsettled] at hrouted
  refine ⟨⟨?_, rfl, hrouted, htarget, htarget, ?_, rfl⟩, halike⟩
  · rw [hrouted]
    rfl
  · rw [patchWrites_self]
    rfl

/-- Before any configuration map is written, the stored service still leads through the stages that
are left. -/
theorem Stages.taken_up (h : Stages r s t c routed recorded)
    (hstored : c.services.get? s.key = some s) (halias : s.AliasIsFree) {q : Cluster}
    (hq : q ∈ [c, routed, recorded]) :
    ∃ u first, q.services.get? s.key = some u ∧ Service.Alike s u ∧
      Stages r u t q first recorded := by
  -- nothing was written, or the routing object was, or the service as well
  simp only [List.mem_cons, List.not_mem_nil, or_false] at hq
  rcases hq with rfl | rfl | rfl
  · exact ⟨s, routed, hstored, .refl s, h⟩
  · refine ⟨s, q, h.same_but_routing.services ▸ hstored, .refl s, ?_⟩
    refine ⟨?_, rfl, h.routing_settled, h.target_settled, h.target_settled, h.record,
      h.same_but_services⟩
    rw [h.routing_settled]
    rfl
  · obtain ⟨hstages, halike⟩ := h.recorded_again halias
    exact ⟨t, q, h.get?_services hstored, halike, hstages⟩

/-- If a service changes the configuration maps not at all, none is outdated. -/
theorem outdated_of_configured {settings : Propagation.Settings} {ns : String}
    (h : (c.configured settings s ns).configMaps = c.configMaps) :
    c.outdated settings s ns = [] := by
  refine List.eq_nil_iff_forall_not_mem.2 fun m hm => ?_
  obtain ⟨name, old, hget, -, hne⟩ := Propagation.mem_changed.1 hm
  rw [c.configMaps.get?_byName] at hget
  have hedited := congrArg (·.get? ⟨ns, name⟩) h
  simp only [configured, Shelf.get?_edited, hget, Option.map_some, if_true,
    Option.some.injEq] at hedited
  exact hne hedited

/-- Whether a delivery that stopped had nothing left but to restart deployments, to end like one
that does not stop. -/
def OnlyRestartsLeft (stopped clean : Cluster) : Prop :=
  stopped.configMaps = clean.configMaps ∧ stopped.deployments ≠ clean.deployments

/-- With the configuration maps as they are to be from the start, no deployment is restarted. -/
theorem Stages.not_onlyRestartsLeft (h : Stages r s t c routed recorded) {clean : Cluster}
    (hend : clean.unlogged = (recorded.propagated r.settings t s.key.inNamespace).cleared.unlogged)
    (log : List Write) :
    ¬OnlyRestartsLeft { c with log } clean := by
  rintro ⟨hmaps, hne⟩
  have hcleanMaps := congrArg Cluster.configMaps hend
  have hcleanDeployments := congrArg Cluster.deployments hend
  -- the maps being as they are to be, none is outdated, and without these nothing is restarted
  have houtdated := outdated_of_configured
    ((hcleanMaps.symm.trans hmaps.symm).trans h.configMaps.symm)
  rw [propagated, houtdated, restarted_nil] at hcleanDeployments
  exact hne (h.deployments.symm.trans hcleanDeployments.symm)

/-- With all configuration maps written, the stored service calls for nothing. -/
theorem Stages.left_as_it_is (h : Stages r s t c routed recorded)
    (hstored : c.services.get? s.key = some s) (hexposed : s.isExposed) (hallows : r.allows s.name)
    (halias : s.AliasIsFree) (hlines : Propagation.StaysOnLines r.settings t) (log : List Write) :
    let written := recorded.configured r.settings t s.key.inNamespace
    written.services.get? s.key = some t ∧
      run (r.handle store (.updated s t)) (cleared { written with log }) =
        (.ok 0, cleared { written with log }) := by
  intro written
  -- only the deployments are missing, and with no configuration map outdated none of them is looked
  -- at
  have hexposes : Exposes r s t written := h.exposes rfl rfl rfl (outdated_configured hlines _)
  obtain ⟨hagain, halike⟩ := hexposes.of_target halias
  obtain ⟨-, hwants, hplan⟩ :=
    r.plan_of_exposes (n := .updated s t) ⟨.inr ⟨s, rfl⟩, halike.isExposed.trans hexposed⟩
      (written.snapshot r.strategy t.key.inNamespace)
  have hallows' : r.allows t.name := halike.name ▸ hallows
  refine ⟨h.get?_services hstored, run_handle_of_plan_nil (hwants.trans hallows') ?_ ?_⟩
  · simp [lists, fails, cleared]
  · refine (hplan hallows').trans ?_
    rw [hagain.planAdd, patchWrites_self]

/-- The delivery after one that stopped ends like one that did not stop, unless it finds the
configuration maps written: then it writes nothing. -/
theorem resumes (hstored : c.services.get? s.key = some s) (hexposed : s.isExposed)
    (halias : s.AliasIsFree) (hrules : s.annotation? Annotation.configYaml = none)
    {failure : Failure} {stopped : Cluster}
    (h : run (r.handle store (.added s)) c = (.error failure, stopped)) :
    ∃ t k recovered k' clean, stopped.services.get? s.key = some t ∧
      run (r.handle store (.updated s t)) stopped.cleared = (.ok k, recovered) ∧
      run (r.handle store (.added s)) c.cleared = (.ok k', clean) ∧
      (recovered.unlogged = clean.unlogged ∧ ¬OnlyRestartsLeft stopped clean ∨
        k = 0 ∧ recovered = stopped.cleared ∧
          clean.unlogged = { stopped.cleared.unlogged with deployments := clean.deployments }) := by
  obtain ⟨t, routed, recorded, hstages⟩ := exists_stages r hstored
  obtain ⟨hallows, q, log, rfl, hq⟩ := hstages.delivery_stops ⟨.inl rfl, hexposed⟩ h
  obtain ⟨k', clean, hclean, hend⟩ :=
    run_handle_of_stages (n := .added s) ⟨.inl rfl, hexposed⟩ hallows hstages c.log
  -- before the configuration maps everything is planned again; after them nothing is
  rcases hq with hq | rfl
  · obtain ⟨u, first, hget, halike, hagain⟩ := hstages.taken_up hstored halias hq
    obtain ⟨k, recovered, hrun, hend'⟩ := run_handle_of_stages (n := .updated s u)
      ⟨.inr ⟨s, rfl⟩, halike.isExposed.trans hexposed⟩ (halike.name ▸ hallows) hagain log
    rw [halike.key] at hend'
    refine ⟨u, k, recovered, k', clean, hget, hrun, hclean, .inl ⟨hend'.trans hend.symm, ?_⟩⟩
    exact hagain.not_onlyRestartsLeft (halike.key ▸ hend) log
  · have hlines :=
      staysOnLines_target halias hrules r.strategy
        (c.snapshot r.strategy s.key.inNamespace) r.settings
    rw [hstages.target] at hlines
    obtain ⟨hget, hrun⟩ := hstages.left_as_it_is hstored hexposed hallows halias hlines log
    have hdeployments :
        clean.deployments = (recorded.propagated r.settings t s.key.inNamespace).deployments :=
      (congrArg deployments hend :)
    refine ⟨t, 0, _, k', clean, hget, hrun, hclean, .inr ⟨rfl, rfl, ?_⟩⟩
    rw [hend, hdeployments]
    rfl

end Cluster

/-! ## Restarts that are lost -/

namespace Cluster

variable {r : Reconciler} {s t : Service} {c routed recorded : Cluster}

/-- Where only deployments cannot be written and some have to be, a delivery stops with only
restarts left. -/
theorem Stages.stops_at_deployments (h : Stages r s t c routed recorded) {n : Notification}
    (hn : n.Exposes s) (hallows : r.allows s.name)
    (hfailing : c.failing = [ObjectKind.deployment.name])
    (hrestarts : (recorded.propagated r.settings t s.key.inNamespace).deployments ≠ c.deployments) :
    ∃ failure stopped, run (r.handle store n) c = (.error failure, stopped) ∧
      stopped.deployments = c.deployments ∧
      stopped.configMaps = (recorded.propagated r.settings t s.key.inNamespace).configMaps := by
  obtain ⟨hservice, hwants, hplan⟩ := r.plan_of_exposes hn (c.snapshot r.strategy s.key.inNamespace)
  have hlists : c.lists r.strategy := by
    cases hexposer : r.strategy.exposer <;>
      simp [lists, listed, hexposer, fails, hfailing] <;> decide
  have hallowed (w : Write) (hkind : w.kind ≠ .deployment) : c.allows w := by
    cases h : w.kind <;> simp_all [allows, fails] <;> decide
  have hrest := effects_toRestart (recorded.configured r.settings t s.key.inNamespace)
    (recorded.outdated r.settings t s.key.inNamespace) s.key.inNamespace
  simp only [run_handle (hwants.trans hallows) hlists, hservice, hplan hallows]
  rw [h.planAdd, ← List.append_assoc, ← List.append_assoc]
  -- some deployment is to be written, for otherwise all would be as they are to be
  cases hdeployments : (recorded.configured r.settings t s.key.inNamespace).toRestart
      (recorded.outdated r.settings t s.key.inNamespace) s.key.inNamespace with
  | nil =>
    rw [hdeployments] at hrest
    rw [propagated, ← Except.ok.inj hrest] at hrestarts
    exact absurd h.deployments hrestarts
  | cons d ds =>
    have hmade := effects_append_eq_ok_iff.2 ⟨recorded,
      effects_append_eq_ok_iff.2 ⟨routed, h.routing, h.record⟩,
      effects_outdated recorded r.settings t s.key.inNamespace⟩
    -- everything before the deployments is made, and the first of them stops the run
    rw [run_apply_append, run_apply_of_allowed (fun w hw => hallowed w ?_) hmade, List.map_cons]
    · simp only [run_apply_cons]
      rw [write_of_not_allowed]
      · exact ⟨_, _, rfl, h.deployments, rfl⟩
      · simp [allows, fails, (effects_keep hmade).1, hfailing, Write.kind, Call.name]
    · simp only [List.mem_append, List.mem_map] at hw
      rcases hw with (hw | hw) | ⟨m, -, rfl⟩
      · rw [kind_routed _ _ _ w hw]
        cases r.strategy <;> simp [routingKind]
      · rw [kind_patchWrites _ _ w hw]
        decide
      · simp [Write.kind]

end Cluster

namespace Sample

open Cluster Propagation

/-- The cluster with deployments that cannot be written. -/
def undeployable : Cluster := { cluster with failing := [ObjectKind.deployment.name] }

theorem get?_services_undeployable : undeployable.services.get? web.key = some web :=
  get?_services_cluster

/-- What is edited in a configuration map of another name that asks for the URL under one key. -/
theorem edits_of_plain_request {settings : Settings} {t : Service} {m : ConfigMap}
    {url name : String} (key : String) (hname : name ≠ t.name) (hurl : t.exposedUrl? = some url)
    (hform : ∀ form : UrlForm, m.annotation? (form.requestKey t.name) =
      if form = .plain then some key else none)
    (hprotocol : m.annotation? Annotation.urlProtocolKey = none) (hkeys : keysOf key = [key]) :
    edits settings t name m = [.set key (Text.withoutLast '/' url)] := by
  simp only [edits, hname, hurl, urlEdits, hform, hprotocol, UrlForm.all, UrlForm.render?, setEach]
  cases (Url.rootOf url).toOption <;> cases Address.scheme? url <;> simp [hkeys]

theorem edits_webConfig {t : Service} {url : String} (hname : t.name = "web")
    (hurl : t.exposedUrl? = some url) :
    edits reconciler.settings t "web-config" webConfig =
      [.set "url" (Text.withoutLast '/' url)] := by
  refine edits_of_plain_request "url" (by rw [hname]; decide) hurl (fun form => ?_)
    (by decide) (by decide)
  rw [hname]
  cases form <;> decide

theorem outdated_cluster {t : Service} {url : String} (hname : t.name = "web")
    (hurl : t.exposedUrl? = some url) :
    cluster.outdated reconciler.settings t "ns1" =
      [{ webConfig with data := some (.insert ∅ "url" (Text.withoutLast '/' url)) }] := by
  have hlisted : (Resource.byName (cluster.configMaps.inNamespace "ns1")).toList =
      [("web-config", webConfig)] := by
    decide
  have hedited : webConfig.edit (edits reconciler.settings t "web-config" webConfig) =
      { webConfig with data := some (.insert ∅ "url" (Text.withoutLast '/' url)) } := by
    rw [edits_webConfig hname hurl]
    rfl
  have hdata : webConfig.data = none := rfl
  simp [outdated, changed, hlisted, hedited, hdata]

theorem stamp_frontend_ne (data : Option StringDict) :
    Rollout.stamp { webConfig with data } frontend ≠ frontend := by
  have hdepends : Rollout.dependsOn frontend webConfig.metadata.displayName = true := by decide
  rw [Rollout.stamp]
  simp only [hdepends, if_true]
  intro h
  simpa [Deployment.containers, Deployment.mapContainers, frontend, Rollout.stampContainer] using
    congrArg Deployment.containers h

theorem target_web (snapshot : Snapshot) :
    ∃ host, reconciler.strategy.target web snapshot = web.recordUrl host "http" := by
  have hport : web.exposedPort = .ok 80 := rfl
  have hrouting : ∃ ws, reconciler.strategy.routing web snapshot = .ok ws := by
    simp only [reconciler, Strategy.routing, IngressStrategy.routingWrites]
    split
    · exact ⟨_, rfl⟩
    · rw [hport]
      exact ⟨_, rfl⟩
  obtain ⟨ws, hws⟩ := hrouting
  rw [Strategy.target_of_routing hws]
  exact ⟨_, rfl⟩

theorem only_restarts_left : ∃ failure stopped,
    run (reconciler.handle store (.added web)) undeployable = (.error failure, stopped) ∧
    ∀ k clean, run (reconciler.handle store (.added web)) undeployable.cleared = (.ok k, clean) →
      OnlyRestartsLeft stopped clean := by
  have hexposes : (Notification.added web).Exposes web := ⟨.inl rfl, isExposed_web⟩
  obtain ⟨t, routed, recorded, hstages⟩ := exists_stages reconciler get?_services_undeployable
  obtain ⟨-, halike⟩ := hstages.recorded_again aliasIsFree_web
  obtain ⟨host, htarget⟩ := target_web (cluster.snapshot reconciler.strategy "ns1")
  have hurl : t.exposedUrl? = some (web.urlAt host "http") := by
    rw [← hstages.target]
    exact (congrArg Service.exposedUrl? htarget).trans
      (Service.exposedUrl?_recordUrl aliasIsFree_web.ne_exposeUrl host "http")
  have houtdated := outdated_cluster halike.name hurl
  -- the deployment would get a fingerprint, which it does not have yet
  have hrestarts : (recorded.propagated reconciler.settings t web.key.inNamespace).deployments ≠
      undeployable.deployments := by
    intro h
    have hget : undeployable.deployments.get? (Resource.key frontend) = some frontend :=
      Shelf.get?_put_self _ _
    have hfrontend := congrArg (·.get? (Resource.key frontend)) h
    simp only [propagated, restarted, configured, Shelf.get?_edited, hstages.deployments, hget,
      Option.map_some, Option.some.injEq, ← hstages.outdated] at hfrontend
    exact stamp_frontend_ne _ (houtdated ▸ hfrontend)
  obtain ⟨failure, stopped, hfailed, hdeployments, hconfigMaps⟩ :=
    hstages.stops_at_deployments hexposes rfl rfl hrestarts
  refine ⟨failure, stopped, hfailed, fun k clean hclean => ?_⟩
  obtain ⟨k', clean', hclean', hend⟩ := run_handle_of_stages hexposes rfl hstages []
  obtain rfl : clean = clean' := (Prod.mk.inj (hclean.symm.trans hclean')).2
  have hcleanMaps := congrArg configMaps hend
  have hcleanDeployments := congrArg deployments hend
  refine ⟨hconfigMaps.trans hcleanMaps.symm, fun h => ?_⟩
  exact hrestarts (hcleanDeployments.symm.trans (h.symm.trans hdeployments))

end Sample

/-! ## Recovery -/

open Cluster

/-- If handling a new service stops at a failure, then, once nothing fails any more, handling the
change that was made by then succeeds. It ends like a delivery that did not stop, unless only
restarts of deployments were left: those are not made up for. -/
theorem failed_delivery_recovers {r : Reconciler} {s : Service} {c stopped : Cluster}
    {failure : Failure} (hstored : c.services.get? s.key = some s) (hexposed : s.isExposed)
    (halias : s.AliasIsFree) (hrules : s.annotation? Annotation.configYaml = none)
    (h : run (r.handle store (.added s)) c = (.error failure, stopped)) :
    ∃ t k recovered k' clean, stopped.services.get? s.key = some t ∧
      run (r.handle store (.updated s t)) stopped.cleared = (.ok k, recovered) ∧
      run (r.handle store (.added s)) c.cleared = (.ok k', clean) ∧
      (recovered.unlogged = clean.unlogged ↔ ¬OnlyRestartsLeft stopped clean) ∧
      (OnlyRestartsLeft stopped clean → k = 0 ∧ recovered = stopped.cleared) := by
  obtain ⟨t, k, recovered, k', clean, hget, hrun, hclean, ⟨hsame, hmore⟩ | ⟨hnone, hkept, hend⟩⟩ :=
    resumes hstored hexposed halias hrules h
  · exact ⟨t, k, recovered, k', clean, hget, hrun, hclean, iff_of_true hsame hmore,
      fun honly => absurd honly hmore⟩
  · refine ⟨t, k, recovered, k', clean, hget, hrun, hclean, ⟨?_, ?_⟩, fun _ => ⟨hnone, hkept⟩⟩
    -- a delivery that writes nothing leaves the deployments as they were when the first one stopped
    · rintro hsame ⟨-, hne⟩
      rw [hkept] at hsame
      exact hne (congrArg deployments hsame :)
    · intro hmore
      have hmaps : stopped.configMaps = clean.configMaps := (congrArg configMaps hend :).symm
      have hdeployments : stopped.deployments = clean.deployments :=
        Decidable.byContradiction fun hne => hmore ⟨hmaps, hne⟩
      rw [hkept, hend, ← hdeployments]
      rfl

open Sample in
theorem failed_delivery_recovers_web : ∃ failure stopped t k recovered k' clean,
    run (reconciler.handle store (.added web)) undeployable = (.error failure, stopped) ∧
    stopped.services.get? web.key = some t ∧
    run (reconciler.handle store (.updated web t)) stopped.cleared = (.ok k, recovered) ∧
    run (reconciler.handle store (.added web)) undeployable.cleared = (.ok k', clean) ∧
    (recovered.unlogged = clean.unlogged ↔ ¬OnlyRestartsLeft stopped clean) ∧
    (OnlyRestartsLeft stopped clean → k = 0 ∧ recovered = stopped.cleared) := by
  obtain ⟨failure, stopped, hfailed, -⟩ := only_restarts_left
  obtain ⟨t, k, recovered, k', clean, hend⟩ := failed_delivery_recovers
    get?_services_undeployable isExposed_web aliasIsFree_web annotation?_configYaml_web hfailed
  exact ⟨failure, stopped, t, k, recovered, k', clean, hfailed, hend⟩

open Sample in
/-- A restart that failed is not made up for. -/
theorem failed_restart_not_recovered : ∃ failure stopped t recovered k clean,
    run (reconciler.handle store (.added web)) undeployable = (.error failure, stopped) ∧
    stopped.services.get? web.key = some t ∧
    run (reconciler.handle store (.updated web t)) stopped.cleared = (.ok 0, recovered) ∧
    run (reconciler.handle store (.added web)) undeployable.cleared = (.ok k, clean) ∧
    recovered.deployments ≠ clean.deployments := by
  obtain ⟨failure, stopped, hfailed, honly⟩ := only_restarts_left
  obtain ⟨t, k, recovered, k', clean, hget, hrun, hclean, hend⟩ := resumes
    get?_services_undeployable isExposed_web aliasIsFree_web annotation?_configYaml_web hfailed
  rcases hend with ⟨-, hmore⟩ | ⟨rfl, rfl, -⟩
  · exact absurd (honly k' clean hclean) hmore
  · exact ⟨failure, stopped, t, _, k', clean, hfailed, hget, hrun, hclean,
      (honly k' clean hclean).2⟩

end ServiceExposure
