import ServiceExposure.Proofs.Recovery

/-! # Fingerprints

A deployment gets the fingerprint of every configuration map that it depends on and that changes,
one after the other. Names that differ in other characters than letters and digits may share a
variable, which then holds the fingerprint of the map that was rolled last. -/

namespace ServiceExposure

/-! ## Environments -/

namespace Rollout

/-- A variable is there once it is set. -/
theorem exists_mem_setVariable (name value : String) (env : List EnvVar) :
    ∃ e ∈ setVariable name value env, e.name = name ∧ e.value = some value := by
  induction env with
  | nil => exact ⟨_, List.mem_singleton.2 rfl, rfl, rfl⟩
  | cons e env ih =>
    rw [setVariable]
    split
    · next hname =>
      refine ⟨_, List.mem_cons_self, ?_⟩
      split
      · next hvalue => exact ⟨hname, hvalue⟩
      · exact ⟨hname, rfl⟩
    · obtain ⟨found, hfound, hset⟩ := ih
      exact ⟨found, List.mem_cons_of_mem _ hfound, hset⟩

/-- Entries stay, unless they are for the variable that is set and have another value. -/
theorem mem_setVariable {name value : String} {env : List EnvVar} {e : EnvVar} (h : e ∈ env)
    (hsame : e.name = name → e.value = some value) : e ∈ setVariable name value env := by
  induction env with
  | nil => exact absurd h List.not_mem_nil
  | cons first env ih =>
    rw [setVariable]
    split
    · next hname =>
      rcases List.mem_cons.1 h with rfl | hrest
      · rw [if_pos (hsame hname)]
        exact List.mem_cons_self
      · exact List.mem_cons_of_mem _ hrest
    · rcases List.mem_cons.1 h with rfl | hrest
      · exact List.mem_cons_self
      · exact List.mem_cons_of_mem _ (ih hrest)

end Rollout

/-! ## Deployments -/

namespace Deployment

/-- Whether each container has a variable of that name with the value. -/
def Carries (d : Deployment) (name value : String) : Prop :=
  ∀ container ∈ d.containers, ∃ e ∈ container.env.getD [], e.name = name ∧ e.value = some value

@[simp] theorem containers_mapContainers (f : Container → Container) (d : Deployment) :
    (d.mapContainers f).containers = d.containers.map f := by
  cases hspec : d.spec with
  | none => simp [mapContainers, containers, hspec]
  | some spec => cases hpods : spec.template.spec <;> simp [mapContainers, containers, hspec, hpods]

end Deployment

namespace Rollout

variable {d : Deployment} {m : ConfigMap}

/-- The variable that holds the fingerprint of a configuration map. -/
def variableOf (m : ConfigMap) : String := variableName m.metadata.displayName

theorem dependsOn_stamp (m : ConfigMap) (d : Deployment) (name : String) :
    dependsOn (stamp m d) name = dependsOn d name := by
  rw [dependsOn, dependsOn, metadata_stamp]

theorem names_stamp (m : ConfigMap) (d : Deployment) :
    (stamp m d).containers.map (·.name) = d.containers.map (·.name) := by
  rw [stamp]
  split
  · rw [Deployment.containers_mapContainers, List.map_map]
    rfl
  · rfl

theorem names_stampAll (ms : List ConfigMap) (d : Deployment) :
    (stampAll ms d).containers.map (·.name) = d.containers.map (·.name) := by
  induction ms generalizing d with
  | nil => rfl
  | cons m ms ih => exact (ih (stamp m d)).trans (names_stamp m d)

theorem carries_stamp (h : dependsOn d m.metadata.displayName) :
    (stamp m d).Carries (variableOf m) m.fingerprint := by
  intro container hcontainer
  simp only [stamp, h, if_true, Deployment.containers_mapContainers, List.mem_map] at hcontainer
  obtain ⟨old, -, rfl⟩ := hcontainer
  exact exists_mem_setVariable _ _ _

/-- What a deployment carries stays, unless the map that is rolled has the same variable and another
fingerprint. -/
theorem Carries.stamp {name value : String} (h : d.Carries name value)
    (hsame : dependsOn d m.metadata.displayName → variableOf m = name → m.fingerprint = value) :
    (stamp m d).Carries name value := by
  intro container hcontainer
  rw [Rollout.stamp] at hcontainer
  split at hcontainer
  · next hdepends =>
    rw [Deployment.containers_mapContainers] at hcontainer
    obtain ⟨old, hold, rfl⟩ := List.mem_map.1 hcontainer
    obtain ⟨e, he, hname, hvalue⟩ := h old hold
    refine ⟨e, mem_setVariable he fun hvariable => ?_, hname, hvalue⟩
    rw [hvalue, hsame hdepends (hvariable.symm.trans hname)]
  · exact h container hcontainer

theorem Carries.stampAll {name value : String} {ms : List ConfigMap} (h : d.Carries name value)
    (hsame : ∀ m ∈ ms, dependsOn d m.metadata.displayName → variableOf m = name →
      m.fingerprint = value) :
    (stampAll ms d).Carries name value := by
  induction ms generalizing d with
  | nil => exact h
  | cons m ms ih =>
    have hlater : ∀ m' ∈ ms, dependsOn (Rollout.stamp m d) m'.metadata.displayName →
        variableOf m' = name →
        m'.fingerprint = value := by
      intro m' hm' hdepends
      rw [dependsOn_stamp] at hdepends
      exact hsame m' (List.mem_cons_of_mem _ hm') hdepends
    exact ih (Carries.stamp h (hsame m List.mem_cons_self)) hlater

/-- The fingerprint of a map is carried in the end, unless a later map has the same variable and
another fingerprint. -/
theorem carries_stampAll {earlier later : List ConfigMap} (h : dependsOn d m.metadata.displayName)
    (hsame : ∀ m' ∈ later, dependsOn d m'.metadata.displayName → variableOf m' = variableOf m →
      m'.fingerprint = m.fingerprint) :
    (stampAll (earlier ++ m :: later) d).Carries (variableOf m) m.fingerprint := by
  have hdepends (name : String) : dependsOn (stampAll earlier d) name = dependsOn d name := by
    rw [dependsOn, dependsOn, metadata_stampAll]
  have horder : stampAll (earlier ++ m :: later) d =
      stampAll later (stamp m (stampAll earlier d)) := List.foldl_append
  rw [horder]
  refine Carries.stampAll (carries_stamp ((hdepends _).trans h)) fun m' hm' hdepends' =>
    hsame m' hm' ?_
  rwa [dependsOn_stamp, hdepends] at hdepends'

end Rollout

/-! ## Plans -/

/-- The configuration map that a write replaces. -/
def Write.configMap? : Write → Option ConfigMap
  | .replaceConfigMap m => some m
  | _ => none

theorem Write.configMap?_eq_some_iff {w : Write} {m : ConfigMap} :
    w.configMap? = some m ↔ w = .replaceConfigMap m := by
  cases w <;> simp [configMap?]

theorem Write.configMap?_eq_none {w : Write} (h : w.kind ≠ .configMap) : w.configMap? = none := by
  cases w <;> first | rfl | exact absurd rfl h

namespace Cluster

variable {r : Reconciler} {c : Cluster} {s : Service}

/-- The configuration maps that are written for an exposed service are those that it changes, in the
same order. -/
theorem filterMap_planAdd_of_snapshot (r : Reconciler) (s : Service) (snapshot : Snapshot) :
    (r.planAdd s snapshot).filterMap Write.configMap? =
      Propagation.changed r.settings (r.strategy.target s snapshot) snapshot.configMaps := by
  have hrouted : (r.strategy.routed s snapshot).filterMap Write.configMap? = [] := by
    refine List.filterMap_eq_nil_iff.2 fun w hw => Write.configMap?_eq_none ?_
    rw [kind_routed _ _ _ w hw]
    cases r.strategy <;> simp [routingKind]
  have hrecord (t : Service) : (patchWrites s t).filterMap Write.configMap? = [] := by
    refine List.filterMap_eq_nil_iff.2 fun w hw => Write.configMap?_eq_none ?_
    rw [kind_patchWrites _ _ w hw]
    decide
  have hmaps (ms : List ConfigMap) :
      (ms.map Write.replaceConfigMap).filterMap Write.configMap? = ms := by
    rw [List.filterMap_map]
    exact List.filterMap_some
  have hdeployments (ds : List Deployment) :
      (ds.map Write.replaceDeployment).filterMap Write.configMap? = [] := by
    rw [List.filterMap_map]
    exact List.filterMap_eq_nil_iff.2 fun _ _ => rfl
  simp only [r.planAdd_of_snapshot, List.filterMap_append, hrouted, hrecord, hmaps, hdeployments,
    List.nil_append, List.append_nil]

theorem filterMap_planAdd (ns : String) :
    (r.planAdd s (c.snapshot r.strategy ns)).filterMap Write.configMap? =
    c.outdated r.settings (r.strategy.target s (c.snapshot r.strategy ns)) ns :=
  filterMap_planAdd_of_snapshot r s (c.snapshot r.strategy ns)

/-- Only plans for exposed services replace configuration maps. -/
theorem plan_of_mem {n : Notification} {snapshot : Snapshot} {m : ConfigMap}
    (h : .replaceConfigMap m ∈ r.plan n snapshot) :
    r.plan n snapshot = r.planAdd n.service snapshot := by
  have hremove (s : Service) : .replaceConfigMap m ∉ r.planRemove s snapshot := by
    intro hmem
    rw [planRemove_eq] at hmem
    rcases List.mem_append.1 hmem with hrouting | hrecord
    · have hkind := r.strategy.kind_unrouting s snapshot _ hrouting
      cases hst : r.strategy <;> simp [hst, Strategy.routingKind?, Write.kind] at hkind
    · have hkind := kind_patchWrites _ _ _ hrecord
      cases hkind
  cases hwants : r.wants n with
  | false =>
    simp only [Reconciler.plan, hwants, Bool.false_eq_true, if_false] at h
    exact absurd h List.not_mem_nil
  | true =>
    cases n with
    | added s =>
      simp only [Reconciler.plan, hwants, if_true]
      rfl
    | updated old new =>
      simp only [Reconciler.plan, hwants, if_true] at h ⊢
      split at h
      · next hexposed => exact if_pos hexposed
      · exact absurd h (hremove new)
    | deleted s =>
      simp only [Reconciler.plan, hwants, if_true] at h
      exact absurd (List.mem_filter.1 h).1 (hremove s)

/-- A plan that has an effect leaves a deployment with the fingerprints of the maps that it
replaces. -/
theorem get?_deployments_of_planAdd {after : Cluster}
    (h : c.effects (r.planAdd s (c.snapshot r.strategy s.key.inNamespace)) = .ok after)
    {name : String} {d : Deployment} (hd : c.deployments.get? ⟨s.key.inNamespace, name⟩ = some d) :
    after.deployments.get? ⟨s.key.inNamespace, name⟩ = some (Rollout.stampAll
      ((r.planAdd s (c.snapshot r.strategy s.key.inNamespace)).filterMap Write.configMap?) d) := by
  obtain ⟨t, routed, recorded, hstages, rfl⟩ := effects_planAdd h
  rw [filterMap_planAdd, hstages.target, hstages.outdated]
  simp only [propagated, restarted, configured, Shelf.get?_edited, hstages.deployments, hd,
    Option.map_some, if_true]

end Cluster

/-! ## Maps that share a variable -/

namespace Sample

open Cluster Propagation Rollout

/-- A configuration map that asks for the protocol under a key. -/
def asking (name key : String) : ConfigMap where
  metadata := {
    name := some name
    inNamespace := some "ns1"
    annotations := some (.insert ∅ Annotation.urlProtocolKey key) }

/-- The configuration map once it has what it asks for. -/
def answered (name key : String) : ConfigMap :=
  { asking name key with data := some (.insert ∅ key "http") }

/-- A deployment that depends on two configuration maps, which have the same variable. -/
def dashboard : Deployment where
  metadata := {
    name := some "dashboard"
    inNamespace := some "ns1"
    annotations := some (.ofList [( Annotation.updateOnChange, "web-config,web.config")]) }
  spec := some { template := { spec := some { containers := [{ name := "app" }] } } }

/-- The service with both configuration maps and the deployment. -/
def crowded : Cluster where
  services := .insert ∅ web.key web
  configMaps := .ofList [asking "web-config" "first", asking "web.config" "second"]
  deployments := .put ∅ dashboard

theorem get?_deployments_crowded :
    crowded.deployments.get? ⟨"ns1", "dashboard"⟩ = some dashboard := by decide

theorem edited_asking {t : Service} {url name key : String} (hweb : t.name = "web")
    (hname : name ≠ "web") (hurl : t.exposedUrl? = some url) (hkeys : keysOf key = [key]) :
    edited reconciler.settings t name (asking name key) = answered name key := by
  have hform (form : UrlForm) : (asking name key).annotation? (form.requestKey "web") = none := by
    have hne : Annotation.urlProtocolKey ≠ form.requestKey "web" := by cases form <;> decide
    exact Dict.get?_insert_of_ne _ hne _
  have hprotocol : (asking name key).annotation? Annotation.urlProtocolKey = some key :=
    Dict.get?_insert_self _ _ _
  have hset : setEach (some key) "http" = [.set key "http"] := by
    rw [setEach, Option.map_some, hkeys]; rfl
  have hurls : urlEdits reconciler.settings "web" url (asking name key) = [.set key "http"] := by
    rw [urlEdits, hprotocol, List.flatMap_eq_nil_iff.2]
    · exact hset
    · intro form _
      simp only [hform]
      cases form.render? url <;> rfl
  have hedits : edits reconciler.settings t name (asking name key) = [.set key "http"] := by
    simp only [edits, hweb, if_neg hname, hurl, hurls, List.nil_append]
  rw [edited, hedits]
  rfl

theorem outdated_crowded {t : Service} {url : String} (hweb : t.name = "web")
    (hurl : t.exposedUrl? = some url) :
    crowded.outdated reconciler.settings t "ns1" =
      [answered "web-config" "first", answered "web.config" "second"] := by
  have hlisted : (Resource.byName (crowded.configMaps.inNamespace "ns1")).toList =
      [("web-config", asking "web-config" "first"),
        ("web.config", asking "web.config" "second")] := by decide
  have hfirst : edited reconciler.settings t "web-config" (asking "web-config" "first") =
      answered "web-config" "first" :=
    edited_asking hweb (by decide) hurl (by decide)
  have hsecond : edited reconciler.settings t "web.config" (asking "web.config" "second") =
      answered "web.config" "second" :=
    edited_asking hweb (by decide) hurl (by decide)
  have hdata (name key : String) : (answered name key).data ≠ (asking name key).data := by
    intro h
    cases h
  rw [edited] at hfirst hsecond
  simp only [outdated, changed, hlisted, List.filterMap_cons, List.filterMap_nil, hfirst, hsecond,
    if_neg (hdata _ _)]

theorem outdated_target_web : crowded.outdated reconciler.settings
    (reconciler.strategy.target web (crowded.snapshot reconciler.strategy "ns1")) "ns1" =
      [answered "web-config" "first", answered "web.config" "second"] := by
  obtain ⟨host, htarget⟩ := target_web (crowded.snapshot reconciler.strategy "ns1")
  rw [htarget]
  exact outdated_crowded rfl
    (Service.exposedUrl?_recordUrl aliasIsFree_web.ne_exposeUrl host "http")

theorem plan_web (snapshot : Snapshot) :
    reconciler.plan (.added web) snapshot = reconciler.planAdd web snapshot := by
  have hwants : reconciler.wants (.added web) := isExposed_web
  simp only [Reconciler.plan, hwants, if_true]

/-- What is planned for the service replaces both configuration maps, and then deployments. -/
theorem plan_crowded : ∃ (before : List Write) (ds : List Deployment),
    reconciler.plan (.added web) (crowded.snapshot reconciler.strategy "ns1") =
      before ++ .replaceConfigMap (answered "web-config" "first") ::
        .replaceConfigMap (answered "web.config" "second") :: ds.map .replaceDeployment := by
  simp only [plan_web, reconciler.planAdd_eq, outdated_target_web, List.map_cons, List.map_nil]
  exact ⟨_, _, List.append_assoc _ _ _⟩

/-- The plan has an effect, and leaves the deployment with both fingerprints in turn. -/
theorem effects_crowded : ∃ after,
    crowded.effects (reconciler.plan (.added web) (crowded.snapshot reconciler.strategy "ns1")) =
      .ok after ∧
      after.deployments.get? ⟨"ns1", "dashboard"⟩ =
        some (stampAll [answered "web-config" "first",
          answered "web.config" "second"] dashboard) := by
  obtain ⟨t, routed, recorded, hstages⟩ :=
    exists_stages (s := web) (c := crowded) reconciler (Dict.get?_insert_self _ _ _)
  have heffects := hstages.effects
  have hget := get?_deployments_of_planAdd heffects get?_deployments_crowded
  rw [filterMap_planAdd, show web.key.inNamespace = "ns1" from rfl, outdated_target_web] at hget
  rw [plan_web]
  exact ⟨_, heffects, hget⟩

end Sample

/-! ## Fingerprints -/

open Cluster

/-- Every configuration map that a plan replaces reaches the deployments that depend on it: each
container has a variable for the map with the fingerprint that was written, unless another map is
replaced later that the deployment depends on, too, and that has the same variable and another
fingerprint. -/
theorem fingerprints_reach_deployments {r : Reconciler} {n : Notification} {c after : Cluster}
    {m : ConfigMap} {before rest : List Write} {name : String} {d : Deployment}
    (hplan : r.plan n (c.snapshot r.strategy n.service.key.inNamespace) = before ++
      .replaceConfigMap m :: rest)
    (heffects : c.effects (r.plan n (c.snapshot r.strategy n.service.key.inNamespace)) = .ok after)
    (hd : c.deployments.get? ⟨n.service.key.inNamespace, name⟩ = some d)
    (hdepends : Rollout.dependsOn d m.metadata.displayName)
    (hlast : ∀ m', .replaceConfigMap m' ∈ rest → Rollout.dependsOn d m'.metadata.displayName →
      Rollout.variableOf m' = Rollout.variableOf m → m'.fingerprint = m.fingerprint) :
    ∃ d', after.deployments.get? ⟨n.service.key.inNamespace, name⟩ = some d' ∧
      d'.metadata = d.metadata ∧
      d'.containers.map (·.name) = d.containers.map (·.name) ∧
      d'.Carries (Rollout.variableOf m) m.fingerprint := by
  have hmem : .replaceConfigMap m ∈ r.plan n (c.snapshot r.strategy n.service.key.inNamespace) := by
    rw [hplan]
    exact List.mem_append_right _ List.mem_cons_self
  have hadd := plan_of_mem hmem
  rw [hadd] at hplan heffects
  refine ⟨_, get?_deployments_of_planAdd heffects hd, Rollout.metadata_stampAll _ _,
    Rollout.names_stampAll _ _, ?_⟩
  rw [hplan, List.filterMap_append, List.filterMap_cons]
  refine Rollout.carries_stampAll hdepends fun m' hm' => hlast m' ?_
  obtain ⟨w, hw, hwritten⟩ := List.mem_filterMap.1 hm'
  exact Write.configMap?_eq_some_iff.1 hwritten ▸ hw

open Sample in
/-- The map that is rolled last reaches the deployment. -/
theorem fingerprints_reach_dashboard : ∃ after d',
    crowded.effects (reconciler.plan (.added web) (crowded.snapshot reconciler.strategy "ns1")) =
      .ok after ∧
    after.deployments.get? ⟨"ns1", "dashboard"⟩ = some d' ∧ d'.containers.map (·.name) = ["app"] ∧
    d'.Carries "FABRIC8_WEB_CONFIG_CONFIGMAP" "second=http" := by
  obtain ⟨before, ds, hplan⟩ := plan_crowded
  obtain ⟨after, heffects, -⟩ := effects_crowded
  have horder := hplan.trans (List.append_cons before _ _)
  have hlast (m : ConfigMap) : .replaceConfigMap m ∉ ds.map Write.replaceDeployment := by simp
  obtain ⟨d', hget, -, hnames, hcarries⟩ :=
    fingerprints_reach_deployments (n := .added web) horder heffects
      get?_deployments_crowded (by decide) fun m hm => absurd hm (hlast m)
  have hvariable : Rollout.variableOf (answered "web.config" "second") =
      "FABRIC8_WEB_CONFIG_CONFIGMAP" := by decide
  have hfingerprint : (answered "web.config" "second").fingerprint = "second=http" := by decide
  exact ⟨after, d', heffects, hget, hnames, hvariable ▸ hfingerprint ▸ hcarries⟩

open Sample in
/-- The map that is rolled first does not, since the other has the same variable. -/
theorem fingerprint_overwritten : ∃ after d',
    .replaceConfigMap (answered "web-config" "first") ∈
      reconciler.plan (.added web) (crowded.snapshot reconciler.strategy "ns1") ∧
    crowded.effects (reconciler.plan (.added web) (crowded.snapshot reconciler.strategy "ns1")) =
      .ok after ∧
    crowded.deployments.get? ⟨"ns1", "dashboard"⟩ = some dashboard ∧
    Rollout.dependsOn dashboard "web-config" ∧
    after.deployments.get? ⟨"ns1", "dashboard"⟩ = some d' ∧
    ¬d'.Carries (Rollout.variableName "web-config")
      (answered "web-config" "first").fingerprint := by
  obtain ⟨before, ds, hplan⟩ := plan_crowded
  obtain ⟨after, heffects, hget⟩ := effects_crowded
  have hmem : .replaceConfigMap (answered "web-config" "first") ∈
      reconciler.plan (.added web) (crowded.snapshot reconciler.strategy "ns1") := by
    rw [hplan]
    exact List.mem_append_right _ List.mem_cons_self
  have hcontainers :
      (Rollout.stampAll [answered "web-config" "first", answered "web.config" "second"]
        dashboard).containers =
      [{ name := "app"
         env := some
           [{ name := "FABRIC8_WEB_CONFIG_CONFIGMAP", value := some "second=http" }] }] := by
    decide
  refine ⟨after, _, hmem, heffects, get?_deployments_crowded, by decide, hget, fun hcarries => ?_⟩
  rw [Deployment.Carries, hcontainers] at hcarries
  obtain ⟨e, he, -, hvalue⟩ := hcarries _ List.mem_cons_self
  rw [List.mem_singleton.1 he] at hvalue
  exact absurd hvalue (by decide)

end ServiceExposure
