import ServiceExposure.Proofs.DeclaredKeys
import ServiceExposure.Proofs.Fingerprints
import ServiceExposure.Proofs.Isolation
import ServiceExposure.Proofs.Watching

/-! # Writes stay confined

However far the handling of a notification gets, it changes the service that the notification is
about, the ingress or route of that service, declared keys of configuration maps and the variables
of deployments that hold fingerprints, and nothing else. Each planned write stays within these
bounds (`Cluster.staysWithin_plan`), and so does any run of such writes, wherever it stops. -/

namespace ServiceExposure

/-! ## Variables of deployments -/

namespace Rollout

theorem filter_setVariable {name : String} {names : List String} (h : name ∈ names) (value : String)
    (env : List EnvVar) :
    (setVariable name value env).filter (·.name ∉ names) = env.filter (·.name ∉ names) := by
  induction env with
  | nil => simp [setVariable, h]
  | cons e env ih =>
    rw [setVariable]
    split
    · next hname =>
      have hnew :
          (if e.value = some value then e
            else { e with value := some value, valueFrom := none }).name ∈ names := by
        split <;> exact hname ▸ h
      have hold : e.name ∈ names := hname ▸ h
      rw [List.filter_cons_of_neg (by simpa using hnew),
        List.filter_cons_of_neg (by simpa using hold)]
    · rw [List.filter_cons, List.filter_cons, ih]

/-- The variables for those of the configuration maps that a deployment depends on. -/
def variablesFor (ms : List ConfigMap) (d : Deployment) : List String :=
  (ms.filter fun m => dependsOn d m.metadata.displayName).map variableOf

end Rollout

/-- The container without the variables of those names. No environment is as good as an empty
one. -/
def Container.without (names : List String) (c : Container) : Container :=
  { c with env := some ((c.env.getD []).filter (·.name ∉ names)) }

namespace Deployment

/-- Whether two deployments differ in variables of those names only. -/
def SameBut (names : List String) (d d' : Deployment) : Prop :=
  d'.mapContainers (·.without names) = d.mapContainers (·.without names)

theorem mapContainers_mapContainers (d : Deployment) (f g : Container → Container) :
    (d.mapContainers f).mapContainers g = d.mapContainers (g ∘ f) := by
  cases hspec : d.spec with
  | none => simp [mapContainers, hspec]
  | some spec => cases hpods : spec.template.spec <;> simp [mapContainers, hspec, hpods]

end Deployment

namespace Rollout

theorem sameBut_stamp {m : ConfigMap} {d : Deployment} {names : List String}
    (h : dependsOn d m.metadata.displayName → variableOf m ∈ names) :
    Deployment.SameBut names d (stamp m d) := by
  rw [Deployment.SameBut, stamp]
  split
  · next hdepends =>
    have hsame :
        (·.without names) ∘ stampContainer (variableOf m) m.fingerprint = (·.without names) := by
      funext container
      simp only [Function.comp_apply, Container.without, stampContainer, Option.getD_some,
        filter_setVariable (h hdepends)]
    rw [Deployment.mapContainers_mapContainers]
    exact congrArg (Deployment.mapContainers · d) hsame
  · rfl

theorem sameBut_stampAll {ms : List ConfigMap} {d : Deployment} {names : List String}
    (h : ∀ m ∈ ms, dependsOn d m.metadata.displayName → variableOf m ∈ names) :
    Deployment.SameBut names d (stampAll ms d) := by
  induction ms generalizing d with
  | nil => rfl
  | cons m ms ih =>
    have hlater : ∀ m' ∈ ms, dependsOn (stamp m d) m'.metadata.displayName →
        variableOf m' ∈ names := by
      intro m' hm' hdepends
      rw [dependsOn_stamp] at hdepends
      exact h m' (List.mem_cons_of_mem _ hm') hdepends
    exact (ih hlater).trans (sameBut_stamp (h m List.mem_cons_self))

/-- Fingerprints go into the variables for the maps that the deployment depends on. -/
theorem sameBut_variablesFor (ms : List ConfigMap) (d : Deployment) :
    Deployment.SameBut (variablesFor ms d) d (stampAll ms d) :=
  sameBut_stampAll fun _ hm hdepends => List.mem_map_of_mem (List.mem_filter.2 ⟨hm, hdepends⟩)

end Rollout

/-! ## Objects that only change -/

/-- Whether look-ups find what they found, each object as it was or changed as allowed. -/
def OnlyChange {α : Type} (allowed : ObjectKey → α → α → Prop)
    (old new : ObjectKey → Option α) : Prop :=
  ∀ key, new key = old key ∨ ∃ o o', old key = some o ∧ new key = some o' ∧ allowed key o o'

namespace OnlyChange

section

variable {α : Type} {allowed : ObjectKey → α → α → Prop} {old new : ObjectKey → Option α}

theorem refl (old : ObjectKey → Option α) : OnlyChange allowed old old := fun _ => .inl rfl

/-- One object more may change. -/
theorem replace (h : OnlyChange allowed old new) {key : ObjectKey} {o o' : α}
    (hold : old key = some o) (hallowed : allowed key o o') {next : ObjectKey → Option α}
    (hself : next key = some o') (hothers : ∀ other, key ≠ other → next other = new other) :
    OnlyChange allowed old next := by
  intro other
  by_cases hkey : key = other
  · subst hkey
    exact .inr ⟨o, o', hold, hself, hallowed⟩
  · rw [hothers other hkey]
    exact h other

/-- What is there was there. -/
theorem exists_old (h : OnlyChange allowed old new) {key : ObjectKey} {o' : α}
    (hnew : new key = some o') :
    ∃ o, old key = some o := by
  rcases h key with hsame | ⟨o, -, hold, -, -⟩
  · exact ⟨o', hsame ▸ hnew⟩
  · exact ⟨o, hold⟩

end

theorem insert {α : Type} {allowed : ObjectKey → α → α → Prop} {old : ObjectKey → Option α}
    {d : Dict ObjectKey α} (h : OnlyChange allowed old d.get?) {key : ObjectKey} {o o' : α}
    (hold : old key = some o) (hallowed : allowed key o o') :
    OnlyChange allowed old (d.insert key o').get? :=
  h.replace hold hallowed (d.get?_insert_self key o') fun _ hne => d.get?_insert_of_ne hne o'

theorem put {α : Type} [Resource α] {allowed : ObjectKey → α → α → Prop}
    {old : ObjectKey → Option α} {shelf : Shelf α} (h : OnlyChange allowed old shelf.get?)
    {o o' : α} (hold : old (Resource.key o') = some o) (hallowed : allowed (Resource.key o') o o') :
    OnlyChange allowed old (shelf.put o').get? :=
  h.replace hold hallowed (shelf.get?_put_self o') fun _ hne => shelf.get?_put_of_ne hne

end OnlyChange

/-- Whether objects are those that were there, but for one that may have come, changed or gone. -/
def DifferAt {α : Type} [Resource α] (home : ObjectKey) (old new : Shelf α) : Prop :=
  ∀ key, key ≠ home → new.get? key = old.get? key

namespace DifferAt

variable {α : Type} [Resource α] {home key : ObjectKey} {old new : Shelf α}

theorem refl (home : ObjectKey) (old : Shelf α) : DifferAt home old old := fun _ _ => rfl

theorem put (h : DifferAt home old new) {object : α} (hkey : Resource.key object = home) :
    DifferAt home old (new.put object) := by
  subst hkey
  intro other hother
  rw [new.get?_put_of_ne hother.symm]
  exact h other hother

theorem erase (h : DifferAt home old new) (hkey : key = home) :
    DifferAt home old (new.erase key) := by
  subst hkey
  intro other hother
  rw [new.get?_erase_of_ne hother.symm]
  exact h other hother

end DifferAt

/-! ## Bounds -/

/-- A cluster that differs from another within the bounds of a service `s` that is recorded as `t`,
where the configuration maps in `replaced` are written: the service has changed at most, its ingress
or route may have come, changed or gone, declared keys of configuration maps in its namespace may
have changed, and so may the variables that hold fingerprints of those maps. -/
structure Cluster.Confined (s t : Service) (replaced : List ConfigMap)
    (c after : Cluster) : Prop where
  apart : after.apiPaths = c.apiPaths ∧ after.failing = c.failing ∧ after.nodes = c.nodes ∧
    after.pods = c.pods
  services : OnlyChange (fun key _ _ => key = s.key) c.services.get? after.services.get?
  ingresses : DifferAt s.home c.ingresses after.ingresses
  routes : DifferAt s.home c.routes after.routes
  configMaps : OnlyChange (fun key m m' => key.inNamespace = s.key.inNamespace ∧
    m.ChangedAt (Propagation.declaredKeys t key.name m) m') c.configMaps.get? after.configMaps.get?
  deployments : OnlyChange (fun key d d' => key.inNamespace = s.key.inNamespace ∧
    d.SameBut (Rollout.variablesFor replaced d) d') c.deployments.get? after.deployments.get?

/-- A write within these bounds. -/
def Write.StaysWithin (s t : Service) (replaced : List ConfigMap) (c : Cluster) : Write → Prop
  | createIngress i | replaceIngress i => i.metadata.key = s.home
  | createRoute r | replaceRoute r => r.metadata.key = s.home
  | deleteIngress key | deleteRoute key => key = s.home
  | patchService key _ => key = s.key
  | replaceConfigMap m' => ∃ m, c.configMaps.get? m'.metadata.key = some m ∧
    m'.metadata.key.inNamespace = s.key.inNamespace ∧
    m.ChangedAt (Propagation.declaredKeys t m'.metadata.key.name m) m'
  | replaceDeployment d' => ∃ d, c.deployments.get? d'.metadata.key = some d ∧
    d'.metadata.key.inNamespace = s.key.inNamespace ∧ d.SameBut (Rollout.variablesFor replaced d) d'

theorem Write.staysWithin_of_routing {s t : Service} {replaced : List ConfigMap} {c : Cluster}
    {w : Write} (st : Strategy) (hkind : st.routingKind? = some w.kind) (hkey : w.key = s.home) :
    w.StaysWithin s t replaced c := by
  cases w
  case patchService | replaceConfigMap | replaceDeployment => cases st <;>
    simp [Strategy.routingKind?, kind] at hkind
  all_goals exact hkey

namespace Cluster

variable {s t : Service} {replaced : List ConfigMap} {c : Cluster}

namespace Confined

theorem refl (c : Cluster) : Confined s t replaced c c :=
  ⟨⟨rfl, rfl, rfl, rfl⟩, .refl _, .refl _ _, .refl _ _, .refl _, .refl _⟩

variable {c' : Cluster} (h : Confined s t replaced c c')
include h

theorem effect {after : Cluster} {w : Write} (hw : w.StaysWithin s t replaced c)
    (heffect : c'.effect w = .ok after) :
    Confined s t replaced c after := by
  cases w <;> simp only [Cluster.effect, Except.ok.injEq] at heffect
  case patchService key patch =>
    obtain ⟨live, _, hlive, -, rfl⟩ := patchService_eq_ok_iff.1 heffect
    obtain ⟨observed, hobserved⟩ := h.services.exists_old hlive
    exact { h with services := h.services.insert hobserved hw }
  case createIngress i =>
    obtain ⟨-, rfl⟩ := createIngress_eq_ok_iff.1 heffect
    exact { h with ingresses := h.ingresses.put hw }
  all_goals subst heffect
  case replaceIngress i => exact { h with ingresses := h.ingresses.put hw }
  case deleteIngress key => exact { h with ingresses := h.ingresses.erase hw }
  case createRoute r => exact { h with routes := h.routes.put hw }
  case replaceRoute r => exact { h with routes := h.routes.put hw }
  case deleteRoute key => exact { h with routes := h.routes.erase hw }
  case replaceConfigMap m =>
    obtain ⟨old, hold, hchange⟩ := hw
    exact { h with configMaps := h.configMaps.put hold hchange }
  case replaceDeployment d =>
    obtain ⟨old, hold, hchange⟩ := hw
    exact { h with deployments := h.deployments.put hold hchange }

theorem write {w : Write} (hw : w.StaysWithin s t replaced c) :
    Confined s t replaced c (c'.write w).2 := by
  have hlogged : Confined s t replaced c { c' with log := w :: c'.log } := { h with }
  simp only [Cluster.write]
  split
  · exact h
  · split
    · next heffect => exact hlogged.effect hw heffect
    · exact hlogged

/-- Writes within the bounds stay within them, wherever they stop. -/
theorem run_apply {ws : List Write} (hws : ∀ w ∈ ws, w.StaysWithin s t replaced c) :
    Confined s t replaced c (run (store.apply ws) c').2 := by
  induction ws generalizing c' with
  | nil => exact h
  | cons w ws ih =>
    have hnext := h.write (hws w List.mem_cons_self)
    rw [run_apply_cons]
    rcases hwrite : c'.write w with ⟨failure | ⟨⟩, next⟩ <;> rw [hwrite] at hnext
    · exact hnext
    · exact ih hnext fun w hw => hws w (List.mem_cons_of_mem _ hw)

end Confined

/-! ## Plans -/

/-- Whatever is written for routing lies at the home of the service. -/
theorem key_routed (st : Strategy) (s : Service) :
    ∀ w ∈ st.routed s (c.snapshot st s.key.inNamespace), w.key = s.home := by
  intro w hw
  cases hrouting : st.routing s (c.snapshot st s.key.inNamespace) with
  | error failure => simp [Strategy.routed, hrouting] at hw
  | ok ws =>
    rw [Strategy.routed_of_routing hrouting] at hw
    cases st with
    | ingress st =>
      rcases IngressStrategy.routingWrites_eq_ok hrouting with ⟨-, rfl⟩ | ⟨-, port, -, rfl⟩
      · exact absurd hw List.not_mem_nil
      · rw [List.mem_singleton.1 hw, c.get?_ingresses]
        have hkey := c.key_ingressFor st s port
        split <;> exact hkey
    | nodePort nodeIP =>
      exact absurd (Strategy.nodePort_routing_eq_nil hrouting ▸ hw) List.not_mem_nil
    | loadBalancer => exact absurd (Except.ok.inj hrouting ▸ hw) List.not_mem_nil
    | route st =>
      obtain ⟨port, -, rfl⟩ := RouteStrategy.routing_eq_ok_iff.1 hrouting
      rw [c.get?_routes] at hw
      have hkey := c.key_routeFor st s port
      simp only [RouteStrategy.routingWrites.eq_def] at hw
      split at hw
      · next hnone => exact List.mem_singleton.1 hw ▸ hnone ▸ hkey
      · next stored hstored =>
        split at hw
        · exact absurd hw List.not_mem_nil
        · exact List.mem_singleton.1 hw ▸ hstored ▸ hkey

theorem key_unrouting (st : Strategy) (s : Service) (snapshot : Snapshot) :
    ∀ w ∈ st.unrouting s snapshot, w.key = s.home := by
  intro w hw
  cases st with
  | ingress st | route st =>
    simp only [Strategy.unrouting] at hw
    split at hw
    · exact List.mem_singleton.1 hw ▸ rfl
    · exact absurd hw List.not_mem_nil
  | nodePort nodeIP => exact absurd hw List.not_mem_nil
  | loadBalancer => exact absurd hw List.not_mem_nil

theorem staysWithin_routed (st : Strategy) :
    ∀ w ∈ st.routed s (c.snapshot st s.key.inNamespace), w.StaysWithin s t replaced c := by
  intro w hw
  refine Write.staysWithin_of_routing st ?_ (key_routed st s w hw)
  cases hrouting : st.routing s (c.snapshot st s.key.inNamespace) with
  | error failure => simp [Strategy.routed, hrouting] at hw
  | ok ws => exact Strategy.kind_routing hrouting w (Strategy.routed_of_routing hrouting ▸ hw)

theorem staysWithin_unrouting (st : Strategy) (snapshot : Snapshot) :
    ∀ w ∈ st.unrouting s snapshot, w.StaysWithin s t replaced c := fun w hw =>
  Write.staysWithin_of_routing st (st.kind_unrouting s snapshot w hw)
    (key_unrouting st s snapshot w hw)

theorem staysWithin_patchWrites (desired : Service) :
    ∀ w ∈ patchWrites s desired, w.StaysWithin s t replaced c := by
  intro w hw
  obtain ⟨patch, rfl⟩ := exists_of_mem_patchWrites hw
  rfl

theorem staysWithin_outdated (settings : Propagation.Settings) :
    ∀ m ∈ c.outdated settings t s.key.inNamespace,
      (Write.replaceConfigMap m).StaysWithin s t replaced c := by
  intro m hm
  obtain ⟨name, old, hget, rfl, -⟩ := Propagation.mem_changed.1 hm
  rw [c.configMaps.get?_byName] at hget
  have hkey : (Propagation.edited settings t name old).metadata.key = ⟨s.key.inNamespace, name⟩ :=
    (congrArg Metadata.key (old.metadata_edit _)).trans (Shelf.key_of_get? hget)
  rw [Write.StaysWithin, hkey]
  exact ⟨old, hget, rfl, Propagation.changedAt_edited settings t name old⟩

theorem staysWithin_toRestart :
    ∀ d ∈ c.toRestart replaced s.key.inNamespace,
      (Write.replaceDeployment d).StaysWithin s t replaced c := by
  intro d hd
  obtain ⟨name, old, hget, -, rfl⟩ := Rollout.mem_rolledOut.1 hd
  rw [c.deployments.get?_byName] at hget
  have hkey : (Rollout.stampAll replaced old).metadata.key = ⟨s.key.inNamespace, name⟩ :=
    (congrArg Metadata.key (Rollout.metadata_stampAll replaced old)).trans (Shelf.key_of_get? hget)
  rw [Write.StaysWithin, hkey]
  exact ⟨old, hget, rfl, Rollout.sameBut_variablesFor replaced old⟩

theorem staysWithin_planAdd (r : Reconciler) (s : Service) :
    let snapshot := c.snapshot r.strategy s.key.inNamespace
    ∀ w ∈ r.planAdd s snapshot, w.StaysWithin s (r.strategy.target s snapshot)
      ((r.planAdd s snapshot).filterMap Write.configMap?) c := by
  intro snapshot w hw
  rw [filterMap_planAdd]
  simp only [snapshot, r.planAdd_eq, List.mem_append, List.mem_map] at hw
  rcases hw with ((hw | hw) | ⟨m, hm, rfl⟩) | ⟨d, hd, rfl⟩
  · exact staysWithin_routed r.strategy w hw
  · exact staysWithin_patchWrites _ w hw
  · exact staysWithin_outdated r.settings m hm
  · exact staysWithin_toRestart d hd

theorem staysWithin_planRemove (r : Reconciler) (snapshot : Snapshot) :
    ∀ w ∈ r.planRemove s snapshot, w.StaysWithin s t replaced c := by
  intro w hw
  rw [planRemove_eq] at hw
  rcases List.mem_append.1 hw with hw | hw
  · exact staysWithin_unrouting r.strategy snapshot w hw
  · exact staysWithin_patchWrites _ w hw

/-- A notification calls for nothing, or exposes its service, or withdraws it. -/
theorem plan_cases (r : Reconciler) (n : Notification) (snapshot : Snapshot) :
    r.plan n snapshot = [] ∨
    (n.Exposes n.service ∧ r.plan n snapshot = r.planAdd n.service snapshot) ∨
      (¬n.Exposes n.service ∧ (r.plan n snapshot).Sublist (r.planRemove n.service snapshot)) := by
  by_cases hexposes : n.Exposes n.service
  · obtain ⟨-, hallows, hplan⟩ := r.plan_of_exposes hexposes snapshot
    cases hwants : r.wants n with
    | false => exact .inl (by simp [Reconciler.plan, hwants])
    | true => exact .inr (.inl ⟨hexposes, hplan (hallows.symm.trans hwants)⟩)
  · cases hwants : r.wants n with
    | false => exact .inl (by simp [Reconciler.plan, hwants])
    | true =>
      refine .inr (.inr ⟨hexposes, ?_⟩)
      cases n with
      | added s =>
        -- a new service is acted on only if it is exposed
        have hexposed : s.isExposed := (Bool.and_eq_true_iff.1 hwants).2
        exact absurd ⟨.inl rfl, hexposed⟩ hexposes
      | updated old new =>
        have hunexposed : ¬new.isExposed := fun h => hexposes ⟨.inr ⟨old, rfl⟩, h⟩
        simp only [Reconciler.plan, hwants, hunexposed, if_true, if_false, Bool.false_eq_true]
        exact List.Sublist.refl _
      | deleted s =>
        simp only [Reconciler.plan, hwants, if_true]
        exact List.filter_sublist

/-- Every planned write stays within the bounds. -/
theorem staysWithin_plan (r : Reconciler) (n : Notification) :
    let snapshot := c.snapshot r.strategy n.service.key.inNamespace
    ∀ w ∈ r.plan n snapshot, w.StaysWithin n.service (r.strategy.target n.service snapshot)
      ((r.plan n snapshot).filterMap Write.configMap?) c := by
  intro snapshot w hw
  rcases plan_cases r n snapshot with hnone | ⟨-, hadd⟩ | ⟨-, hremove⟩
  · rw [hnone] at hw
    exact absurd hw List.not_mem_nil
  · rw [hadd] at hw ⊢
    exact staysWithin_planAdd r n.service w hw
  · exact staysWithin_planRemove r snapshot w (hremove.subset hw)

/-- Whether or not it is stopped, a delivery stays within the bounds. -/
theorem confined_handled (r : Reconciler) (n : Notification) :
    let snapshot := c.snapshot r.strategy n.service.key.inNamespace
    Confined n.service (r.strategy.target n.service snapshot)
      ((r.plan n snapshot).filterMap Write.configMap?) c
      (c.handled r n) := by
  intro snapshot
  rw [handled]
  cases hwants : r.wants n with
  | false =>
    rw [run_handle_of_not_wants hwants]
    exact .refl c
  | true =>
    cases hlists : c.lists r.strategy with
    | false =>
      obtain ⟨failure, hfailed⟩ := run_handle_of_not_lists hwants hlists
      rw [hfailed]
      exact .refl c
    | true =>
      rw [run_handle hwants hlists]
      exact (Confined.refl c).run_apply (staysWithin_plan r n)

end Cluster

/-! ## A key that is recorded on the service -/

open Cluster

theorem IngressStrategy.target_of_ports {s : Service} (h : s.ports ≠ []) (st : IngressStrategy)
    (snapshot : Snapshot) :
    (Strategy.ingress st).target s snapshot = st.desired s := by
  cases hwrites : st.routingWrites s snapshot with
  | error failure => exact absurd (Strategy.ports_of_routingWrites_error hwrites) h
  | ok ws =>
    have hrouting : (Strategy.ingress st).routing s snapshot = .ok ws := hwrites
    exact Strategy.target_of_routing hrouting

namespace Sample

open Propagation

/-- A service that asks for its host under the annotation that declares a key for its address inside
the cluster. -/
def aliased : Service where
  metadata := {
    name := some "web"
    inNamespace := some "ns1"
    uid := some "web-uid"
    labels := some (.ofList [ Annotation.exposeLabel])
    annotations := some (.ofList [( Annotation.exposeHostNameAs, Annotation.clusterIPKey)]) }
  spec := some { ports := some [{ port := 80 }], clusterIP := some "10.0.0.1" }

/-- The configuration map that has the name of the service. -/
def ownMap : ConfigMap where
  metadata := { name := some "web", inNamespace := some "ns1" }

def aliasing : Cluster where
  services := .insert ∅ aliased.key aliased
  configMaps := .put ∅ ownMap

theorem setting?_clusterIPKey_desired :
    (strategy.desired aliased).setting? Annotation.clusterIPKey = some "web.ns1.example.com" := by
  decide

/-- The host that is recorded becomes a key of the map. -/
theorem set_mem_edits : .set "web.ns1.example.com" "10.0.0.1" ∈
    edits reconciler.settings (strategy.desired aliased) "web" ownMap := by
  have hname : "web" = (strategy.desired aliased).name := by decide
  have hip : clusterIP? (strategy.desired aliased) = some "10.0.0.1" := by decide
  have hclusterIP :
      .set "web.ns1.example.com" "10.0.0.1" ∈ clusterIPEdits (strategy.desired aliased) ownMap := by
    simp only [clusterIPEdits, hip, setting?_clusterIPKey_desired]
    exact List.mem_append_left _ (List.mem_singleton.2 rfl)
  rw [edits, if_pos hname]
  exact List.mem_append_left _ (List.mem_append_left _ (List.mem_append_right _ hclusterIP))

end Sample

/-! ## Confinement -/

/-- However far the handling of a notification gets, it changes no more than what is within the
bounds of the service. The keys of configuration maps that may change are those that are declared
for the service as it is recorded. What is recorded are annotations and the type, which declare no
other keys than the service did before, unless the service names one of the annotations that declare
keys as the one to get its host. -/
theorem writes_confined {c : Cluster} (r : Reconciler) (n : Notification) :
    let s := n.service
    let snapshot := c.snapshot r.strategy s.key.inNamespace
    let t := r.strategy.target s snapshot
    c.Confined s t ((r.plan n snapshot).filterMap Write.configMap?) (c.handled r n) ∧
      s.AgreeOutside s.recordKeys t ∧
      ((∀ other, Service.aliasKey? s.annotations = some other →
          other ∉ Annotation.configYaml :: Propagation.clusterIPRequests) →
        ∀ name m, Propagation.declaredKeys t name m = Propagation.declaredKeys s name m) := by
  intro s snapshot t
  refine ⟨confined_handled r n, (r.strategy.edits_target s snapshot).toAgreeOutside,
    fun halias name m => ?_⟩
  exact Propagation.declaredKeys_target halias r.strategy snapshot name m

open Sample in
/-- The configuration map that asks for the URL gets it under the key that it declares, and nothing
else. -/
theorem writes_confined_web :
    ∃ m,
      (cluster.handled reconciler (.added web)).configMaps.get? (Resource.key webConfig) = some m ∧
    m = { webConfig with data := m.data } ∧ ∀ key, key ≠ "url" → m.value? key = none := by
  obtain ⟨hconfined, hrecorded, -⟩ := writes_confined (c := cluster) reconciler (.added web)
  have hget : cluster.configMaps.get? (Resource.key webConfig) = some webConfig :=
    Shelf.get?_put_self _ _
  have hname :
      (reconciler.strategy.target web
        (cluster.snapshot reconciler.strategy web.key.inNamespace)).name = "web" :=
    congrArg ObjectKey.name hrecorded.key
  rcases hconfined.configMaps (Resource.key webConfig) with hsame | ⟨m, m', hm, hm', -, hchanged⟩
  · exact ⟨webConfig, hsame.trans hget, rfl, fun _ _ => rfl⟩
  · obtain rfl : webConfig = m := Option.some.inj (hget.symm.trans hm)
    refine ⟨m', hm', hchanged.data,
      fun key hkey => (hchanged.value? key fun hmem => hkey ?_).trans rfl⟩
    have hdeclared : Propagation.requestedKeys "web" webConfig = ["url"] := by decide
    have hother : ¬(Resource.key webConfig).name = "web" := by decide
    rw [Propagation.declaredKeys, Notification.service, hname, if_neg hother, List.append_nil,
      hdeclared] at hmem
    exact List.mem_singleton.1 hmem

open Sample in
/-- The configuration map of the service gets a key that neither it nor the service declares: the
host that is recorded where the service would declare one. -/
theorem undeclared_key_written : ∃ m,
    (aliasing.handled reconciler (.added aliased)).configMaps.get? (Resource.key ownMap) = some m ∧
    ownMap.value? "web.ns1.example.com" = none ∧ (m.value? "web.ns1.example.com").isSome ∧
    "web.ns1.example.com" ∉ Propagation.declaredKeys aliased "web" ownMap := by
  have hexposes : (Notification.added aliased).Exposes aliased := ⟨.inl rfl, by decide⟩
  obtain ⟨t, routed, recorded, hstages⟩ :=
    exists_stages (s := aliased) (c := aliasing) reconciler (Dict.get?_insert_self _ _ _)
  obtain ⟨k, last, hrun, hend⟩ := run_handle_of_stages hexposes rfl hstages []
  have hports : aliased.ports ≠ [] := List.cons_ne_nil _ _
  obtain rfl : strategy.desired aliased = t :=
    (IngressStrategy.target_of_ports hports strategy _).symm.trans hstages.target
  have hstart : cleared { aliasing with log := [] } = aliasing := rfl
  have hlast : aliasing.handled reconciler (.added aliased) = last := by
    rw [handled, ← hstart, hrun]
  have hmaps : last.configMaps =
      (recorded.configured reconciler.settings (strategy.desired aliased) "ns1").configMaps :=
    (congrArg configMaps hend :)
  have hget : aliasing.configMaps.get? (Resource.key ownMap) = some ownMap :=
    Shelf.get?_put_self _ _
  refine ⟨Propagation.edited reconciler.settings (strategy.desired aliased) "web" ownMap, ?_, rfl,
    ?_, by decide⟩
  · rw [hlast, hmaps]
    have hkey : Resource.key ownMap = ⟨"ns1", "web"⟩ := rfl
    rw [hkey] at hget ⊢
    simp only [configured, Shelf.get?_edited, hstages.configMaps, hget, Option.map_some, if_true]
  · rw [Propagation.edited, ConfigMap.value?_edit]
    exact Edit.isSome_get?_of_set set_mem_edits _

end ServiceExposure
