import ServiceExposure.Proofs.Interruption
import ServiceExposure.Proofs.Withdrawal

/-! # Removal undoes exposure

What removes a service finds what was made for it by the name and the alias that the service asks
for. The record that was left on the service changes neither of them (`Strategy.alike_desired`), so
removal takes back what was made, and no more. -/

namespace ServiceExposure

/-! ## Entries taken back -/

namespace Dict

variable {κ α : Type} [DecidableEq κ] [KeyOrder κ]

theorem erase_of_get? {d : Dict κ α} {key : κ} (h : d.get? key = none) : d.erase key = d := by
  refine ext_get? fun other => ?_
  by_cases hother : key = other
  · exact hother ▸ (d.get?_erase_self key).trans h.symm
  · exact d.get?_erase_of_ne hother

theorem erase_insert_self (d : Dict κ α) (key : κ) (value : α) :
    (d.insert key value).erase key = d.erase key := by
  refine ext_get? fun other => ?_
  by_cases hother : key = other
  · subst hother
    simp only [get?_erase_self]
  · simp only [get?_erase_of_ne _ hother, get?_insert_of_ne _ hother]

theorem erase_insert_of_ne (d : Dict κ α) {key other : κ} (h : key ≠ other) (value : α) :
    (d.insert key value).erase other = (d.erase other).insert key value := by
  refine ext_get? fun third => ?_
  by_cases hkey : key = third
  · subst hkey
    simp only [get?_erase_of_ne _ h.symm, get?_insert_self]
  · by_cases hother : other = third
    · subst hother
      simp only [get?_erase_self, get?_insert_of_ne _ hkey]
    · simp only [get?_erase_of_ne _ hother, get?_insert_of_ne _ hkey]

end Dict

namespace Service

/-- To clear a URL takes back what was recorded on a service that had neither a URL nor a value for
the alias. -/
theorem clearUrl_recordUrl {s : Service} (hurl : s.annotation? Annotation.exposeUrl = none)
    (hfree : s.AliasIsFree)
    (habsent : ∀ other, aliasKey? s.annotations = some other → s.annotation? other = none)
    (host protocol : String) :
    (s.recordUrl host protocol).clearUrl = s.withAnnotations s.annotations := by
  rw [annotation?_eq] at hurl
  have hpresent : (s.recordUrl host protocol).metadata.annotations =
      some (s.recordUrl host protocol).annotations := rfl
  have herased : (s.annotations.insert Annotation.exposeUrl (s.urlAt host protocol)).erase
      Annotation.exposeUrl =
      s.annotations := by
    rw [Dict.erase_insert_self, Dict.erase_of_get? hurl]
  simp only [clearUrl, hpresent, annotations_recordUrl]
  cases halias : aliasKey? s.annotations with
  | none =>
    simp only [herased, halias]
    rfl
  | some other =>
    have hne (key : String) (hkey : key ∈ Annotation.keys) : other ≠ key :=
      fun heq => hfree other halias (heq ▸ hkey)
    have hvalue := habsent other halias
    rw [annotation?_eq] at hvalue
    simp only [Dict.erase_insert_of_ne _ (hne Annotation.exposeUrl (by decide)), herased,
      aliasKey?_insert (hne Annotation.exposeHostNameAs (by decide)), halias,
      Dict.erase_insert_self, Dict.erase_of_get? hvalue]
    rfl

end Service

/-! ## Snapshots after writes -/

namespace Snapshot

/-- The objects of a namespace after a write in it. Services are not among them. -/
def written (snapshot : Snapshot) : Write → Snapshot
  | .createIngress i | .replaceIngress i =>
    { snapshot with ingresses := snapshot.ingresses.insert i.metadata.displayName i }
  | .deleteIngress key => { snapshot with ingresses := snapshot.ingresses.erase key.name }
  | .createRoute r | .replaceRoute r =>
    { snapshot with routes := snapshot.routes.insert r.metadata.displayName r }
  | .deleteRoute key => { snapshot with routes := snapshot.routes.erase key.name }
  | .patchService _ _ => snapshot
  | .replaceConfigMap m =>
    { snapshot with configMaps := snapshot.configMaps.insert m.metadata.displayName m }
  | .replaceDeployment d =>
    { snapshot with deployments := snapshot.deployments.insert d.metadata.displayName d }

end Snapshot

namespace Shelf

variable {α : Type} [Resource α] {ns : String}

theorem byName_put (shelf : Shelf α) {object : α} (hns : (Resource.key object).inNamespace = ns) :
    Resource.byName ((shelf.put object).inNamespace ns) =
      (Resource.byName (shelf.inNamespace ns)).insert (Resource.displayName object) object := by
  refine Dict.ext_get? fun name => ?_
  have hkey : Resource.key object = ⟨ns, Resource.displayName object⟩ := by rw [← hns]; rfl
  rw [get?_byName]
  by_cases hname : Resource.displayName object = name
  · subst hname
    rw [shelf.get?_put_of_eq hkey, Dict.get?_insert_self]
  · have hne : Resource.key object ≠ ⟨ns, name⟩ := fun heq => hname (congrArg ObjectKey.name heq)
    rw [shelf.get?_put_of_ne hne, Dict.get?_insert_of_ne _ hname, get?_byName]

theorem byName_erase (shelf : Shelf α) (ns name : String) :
    Resource.byName ((shelf.erase ⟨ns, name⟩).inNamespace ns) =
      (Resource.byName (shelf.inNamespace ns)).erase name := by
  refine Dict.ext_get? fun other => ?_
  rw [get?_byName]
  by_cases hname : name = other
  · rw [hname, Shelf.get?_erase_self, Dict.get?_erase_self]
  · have hne : (⟨ns, name⟩ : ObjectKey) ≠ ⟨ns, other⟩ :=
      fun heq => hname (congrArg ObjectKey.name heq)
    rw [shelf.get?_erase_of_ne hne, Dict.get?_erase_of_ne _ hname, get?_byName]

end Shelf

/-- Whether a write bears on what a strategy sees of a namespace, if it is one of a routing
object. -/
structure Strategy.Sees (st : Strategy) (ns : String) (w : Write) : Prop where
  inNamespace : w.key.inNamespace = ns
  ingress : w.kind = .ingress → st.exposer = .ingress
  route : w.kind = .route → st.exposer = .route

namespace Strategy

variable {st : Strategy} {ns : String} {w : Write}

theorem Sees.of_kind (hns : w.key.inNamespace = ns) (hkind : st.routingKind? = some w.kind) :
    st.Sees ns w where
  inNamespace := hns
  ingress h := by cases st <;> simp_all [routingKind?, exposer]
  route h := by cases st <;> simp_all [routingKind?, exposer]

theorem Sees.patchService (st : Strategy) (key : ObjectKey) (patch : Json) :
    st.Sees key.inNamespace (.patchService key patch) := ⟨rfl, nofun, nofun⟩

end Strategy

namespace Cluster

variable {st : Strategy} {ns : String}

/-- What is seen of a namespace after a write. -/
theorem snapshot_effect {c after : Cluster} {w : Write} (h : c.effect w = .ok after)
    (hw : st.Sees ns w) :
    after.snapshot st ns = (c.snapshot st ns).written w := by
  obtain ⟨rfl, hingress, hroute⟩ := hw
  cases w with
  | createIngress i =>
    obtain ⟨-, rfl⟩ := createIngress_eq_ok_iff.1 h
    simp only [snapshot, Snapshot.written, hingress rfl, if_true, Write.key]
    exact congrArg (Snapshot.mk · _ _ _) (c.ingresses.byName_put rfl)
  | replaceIngress i =>
    cases h
    simp only [snapshot, Snapshot.written, hingress rfl, if_true, Write.key]
    exact congrArg (Snapshot.mk · _ _ _) (c.ingresses.byName_put rfl)
  | deleteIngress key =>
    cases h
    simp only [snapshot, Snapshot.written, hingress rfl, if_true, Write.key]
    exact congrArg (Snapshot.mk · _ _ _) (c.ingresses.byName_erase _ key.name)
  | createRoute r | replaceRoute r =>
    cases h
    simp only [snapshot, Snapshot.written, hroute rfl, if_true, Write.key]
    exact congrArg (Snapshot.mk _ · _ _) (c.routes.byName_put rfl)
  | deleteRoute key =>
    cases h
    simp only [snapshot, Snapshot.written, hroute rfl, if_true, Write.key]
    exact congrArg (Snapshot.mk _ · _ _) (c.routes.byName_erase _ key.name)
  | patchService key patch =>
    obtain ⟨-, -, -, -, rfl⟩ := patchService_eq_ok_iff.1 h
    rfl
  | replaceConfigMap m =>
    cases h
    simp only [snapshot, Snapshot.written, Write.key]
    exact congrArg (Snapshot.mk _ _ · _) (c.configMaps.byName_put rfl)
  | replaceDeployment d =>
    cases h
    simp only [snapshot, Snapshot.written, Write.key]
    exact congrArg (Snapshot.mk _ _ _) (c.deployments.byName_put rfl)

/-- What is seen of a namespace after writes is what they make of the snapshot from before. -/
theorem snapshot_effects {ws : List Write} {c after : Cluster} (h : c.effects ws = .ok after)
    (hws : ∀ w ∈ ws, st.Sees ns w) :
    after.snapshot st ns = ws.foldl Snapshot.written (c.snapshot st ns) := by
  induction ws generalizing c with
  | nil => rw [← Except.ok.inj h]; rfl
  | cons w ws ih =>
    obtain ⟨next, hw, hrest⟩ := effects_cons_eq_ok_iff.1 h
    rw [ih hrest fun w hw => hws w (List.mem_cons_of_mem _ hw),
      snapshot_effect hw (hws w List.mem_cons_self)]
    rfl

end Cluster

/-! ## Removal -/

/-- A patch that is called for leads from one state of a service to the other. -/
theorem exists_patchWrites {observed desired : Service} (h : observed ≠ desired) : ∃ patch,
    patchWrites observed desired = [.patchService observed.key patch] ∧
      Service.ofJson? (Json.merge patch observed.toJson) = some desired := by
  obtain ⟨patch, hpatch⟩ := Option.ne_none_iff_exists'.1 (mt Service.servicePatch?_eq_none_iff.1 h)
  have hpatched := Service.ofJson?_patched observed desired observed
  rw [hpatch, LawfulRebase.service.base] at hpatched
  exact ⟨patch, by rw [patchWrites, hpatch]; rfl, hpatched⟩

namespace Strategy

/-- Where there is no routing object for a service, one is created, and what takes the routing
object away from a service that asks for the same takes away that one. -/
theorem unrouting_undoes_routing {st : Strategy} {s t : Service} {snapshot : Snapshot}
    {ws : List Write} (hkind : st.routingKind? ≠ none)
    (hingress : st.routingKind? = some .ingress → snapshot.ingresses.get? s.appName = none)
    (hroute : st.routingKind? = some .route → snapshot.routes.get? s.appName = none)
    (halike : Service.Alike s t) (h : st.routing s snapshot = .ok ws) :
    ∃ created deleted, ws = [created] ∧ created.verb = "create" ∧
      some created.kind = st.routingKind? ∧
      created.key = s.home ∧ st.unrouting t (snapshot.written created) = [deleted] ∧
      deleted.verb = "delete" ∧
      deleted.object = created.object ∧ (snapshot.written created).written deleted = snapshot := by
  cases st with
  | nodePort nodeIP | loadBalancer => exact absurd rfl hkind
  | ingress st =>
    have hnone := hingress rfl
    rcases IngressStrategy.routingWrites_eq_ok h with ⟨hbound, -⟩ | ⟨-, port, -, rfl⟩
    · rw [hnone] at hbound
      cases hbound
    · rw [hnone]
      have hkey : (st.ingressFor s none port).metadata.key = s.home :=
        st.key_ingressFor s none port (by simp)
      have hname : (st.ingressFor s none port).metadata.displayName = s.appName :=
        congrArg ObjectKey.name hkey
      refine ⟨.createIngress (st.ingressFor s none port), .deleteIngress s.home, rfl, rfl, rfl,
        hkey, ?_, rfl, ?_, ?_⟩
      · simp only [unrouting, Snapshot.written, hname, halike.appName, halike.key, Dict.contains,
          Dict.get?_insert_self, Option.isSome_some, if_true]
        rfl
      · exact congrArg (Prod.mk _) hkey.symm
      · simp only [Snapshot.written, hname, Service.home, Dict.erase_insert_self,
          Dict.erase_of_get? hnone]
  | route st =>
    have hnone := hroute rfl
    obtain ⟨port, -, rfl⟩ := RouteStrategy.routing_eq_ok_iff.1 h
    rw [hnone]
    have hkey : (st.routeFor s none port).metadata.key = s.home :=
      st.key_routeFor s none port (by simp)
    have hname : (st.routeFor s none port).metadata.displayName = s.appName :=
      congrArg ObjectKey.name hkey
    refine ⟨.createRoute (st.routeFor s none port), .deleteRoute s.home, rfl, rfl, rfl, hkey,
      ?_, rfl, ?_, ?_⟩
    · simp only [unrouting, Snapshot.written, hname, halike.appName, halike.key, Dict.contains,
        Dict.get?_insert_self, Option.isSome_some, if_true]
      rfl
    · exact congrArg (Prod.mk _) hkey.symm
    · simp only [Snapshot.written, hname, Service.home, Dict.erase_insert_self,
        Dict.erase_of_get? hnone]

/-- An exposure bears on what is seen of the namespace. -/
theorem sees_of {st : Strategy} {s : Service} {ws : List Write} (desired : Service)
    (hws : ∀ w ∈ ws, st.routingKind? = some w.kind ∧ w.key = s.home) :
    ∀ w ∈ (Exposure.of s desired ws).writes, st.Sees s.key.inNamespace w := by
  intro w hw
  rcases List.mem_append.1 hw with hw | hw
  · obtain ⟨hkind, hkey⟩ := hws w hw
    exact .of_kind (hkey ▸ rfl) hkind
  · obtain ⟨patch, rfl⟩ := exists_of_mem_patchWrites hw
    exact .patchService st s.key patch

/-- What exposes a stored service takes effect, and the snapshot follows. -/
theorem effects_add {st : Strategy} {s live : Service} {c : Cluster} {e : Exposure}
    (hlive : c.services.get? s.key = some live)
    (h : st.add s (c.snapshot st s.key.inNamespace) = .ok e) :
    ∃ after, c.effects e.writes = .ok after ∧
      after.snapshot st s.key.inNamespace =
        e.writes.foldl Snapshot.written (c.snapshot st s.key.inNamespace) ∧
      after.services.get? s.key = some (s.rebase e.service live) := by
  obtain ⟨ws, hrouting, rfl⟩ := add_eq_ok_iff.1 h
  obtain ⟨routed, hrouted, hsame, -⟩ := routing_settles hrouting
  have heffects := Cluster.effects_append_patchWrites hrouted hsame hlive (st.desired s)
  refine ⟨_, heffects, Cluster.snapshot_effects heffects (sees_of _ fun w hw => ?_),
    Dict.get?_insert_self _ _ _⟩
  exact ⟨kind_routing hrouting w hw, Cluster.key_routed st s w (routed_of_routing hrouting ▸ hw)⟩

/-- What removes a stored service takes effect, and the snapshot follows. -/
theorem effects_remove (st : Strategy) {s : Service} {c : Cluster}
    (hstored : c.services.get? s.key = some s) :
    let undone := st.remove s (c.snapshot st s.key.inNamespace)
    ∃ after, c.effects undone.writes = .ok after ∧
      after.snapshot st s.key.inNamespace =
        undone.writes.foldl Snapshot.written (c.snapshot st s.key.inNamespace) ∧
      after.services.get? s.key = some undone.service := by
  intro undone
  have hundone : undone = .of s s.clearUrl (st.unrouting s (c.snapshot st s.key.inNamespace)) :=
    st.remove_eq s _
  obtain ⟨unrouted, hunrouted, hsame, -⟩ := st.unrouting_settles s (c := c)
  have heffects := Cluster.effects_append_patchWrites hunrouted hsame hstored s.clearUrl
  rw [hundone]
  refine ⟨_, heffects, Cluster.snapshot_effects heffects (sees_of _ fun w hw => ?_), ?_⟩
  · exact ⟨st.kind_unrouting _ _ w hw, Cluster.key_unrouting st _ _ w hw⟩
  · rw [Cluster.rebased, LawfulRebase.service.base, Dict.get?_insert_self]
    rfl

/-- A strategy with routing objects records a URL on every service that it exposes. -/
theorem desired_eq_recordUrl {st : Strategy} (hkind : st.routingKind? ≠ none) (s : Service) :
    ∃ host protocol, st.desired s = s.recordUrl host protocol := by
  cases st with
  | nodePort nodeIP | loadBalancer => exact absurd rfl hkind
  | ingress st | route st => exact ⟨_, _, rfl⟩

end Strategy

/-- Removal takes back what exposure made: it deletes the object that was created, which leaves the
snapshot as it was, and gives the service back without the record. The writes have these effects on
each cluster that the snapshot was taken of. -/
theorem remove_undoes_add {st : Strategy} {s : Service} {snapshot : Snapshot} {e : Exposure}
    (hkind : st.routingKind? ≠ none) (hurl : s.annotation? Annotation.exposeUrl = none)
    (hfree : s.AliasIsFree)
    (habsent : ∀ other, Service.aliasKey? s.annotations = some other → s.annotation? other = none)
    (hingress : st.routingKind? = some .ingress → snapshot.ingresses.get? s.appName = none)
    (hroute : st.routingKind? = some .route → snapshot.routes.get? s.appName = none)
    (h : st.add s snapshot = .ok e) :
    ∃ created record deleted cleared,
      e.writes = [created, .patchService s.key record] ∧ created.verb = "create" ∧
      some created.kind = st.routingKind? ∧ created.key = s.home ∧
      let left := snapshot.written created
      let undone := st.remove e.service left
      undone.writes = [deleted, .patchService s.key cleared] ∧ deleted.verb = "delete" ∧
        deleted.object = created.object ∧ undone.writes.foldl Snapshot.written left = snapshot ∧
        undone.service = s.withAnnotations s.annotations ∧
        Service.ofJson? (Json.merge cleared e.service.toJson) = some undone.service ∧
        ∀ c : Cluster, c.snapshot st s.key.inNamespace = snapshot → c.services.get? s.key = some s →
          ∃ exposed restored, c.effects e.writes = .ok exposed ∧
            exposed.snapshot st s.key.inNamespace = left ∧
            exposed.services.get? s.key = some e.service ∧
            exposed.effects undone.writes = .ok restored ∧
            restored.snapshot st s.key.inNamespace = snapshot ∧
            restored.services.get? s.key = some undone.service := by
  obtain ⟨ws, hrouting, rfl⟩ := Strategy.add_eq_ok_iff.1 h
  obtain ⟨host, protocol, hdesired⟩ := Strategy.desired_eq_recordUrl hkind s
  have halike := st.alike_desired hfree
  have hcleared : (st.desired s).clearUrl = s.withAnnotations s.annotations := by
    rw [hdesired, Service.clearUrl_recordUrl hurl hfree habsent]
  obtain ⟨created, deleted, rfl, hcreated, hsamekind, hhome, hunrouting, hdeleted,
      hobject, hundone⟩ :=
    Strategy.unrouting_undoes_routing hkind hingress hroute halike hrouting
  -- the URL tells the recorded service from both, so it takes a patch to come and one to go
  have hrecorded : ((st.desired s).annotation? Annotation.exposeUrl).isSome := by
    rw [hdesired, Service.annotation?_eq, Service.get?_exposeUrl_recordUrl hfree.ne_exposeUrl]
    rfl
  have hcome : s ≠ st.desired s := fun heq => by
    rw [← heq, hurl] at hrecorded
    cases hrecorded
  have hgo : st.desired s ≠ (st.desired s).clearUrl := fun heq => by
    rw [heq, Service.annotation?_exposeUrl_clearUrl] at hrecorded
    cases hrecorded
  obtain ⟨record, hrecord, -⟩ := exists_patchWrites hcome
  obtain ⟨cleared, hclear, hpatched⟩ := exists_patchWrites hgo
  rw [halike.key] at hclear
  refine ⟨created, record, deleted, cleared, congrArg ([created] ++ ·) hrecord, hcreated,
    hsamekind, hhome, ?_⟩
  have hwrites : (st.remove (st.desired s) (snapshot.written created)).writes =
      [deleted, .patchService s.key cleared] := by
    rw [Strategy.remove_eq, hunrouting]
    exact congrArg ([deleted] ++ ·) hclear
  have hservice :
      (st.remove (st.desired s) (snapshot.written created)).service = (st.desired s).clearUrl := by
    rw [Strategy.remove_eq]
    rfl
  have hback : (st.remove (st.desired s) (snapshot.written created)).writes.foldl Snapshot.written
      (snapshot.written created) = snapshot :=
    (congrArg (List.foldl Snapshot.written _) hwrites).trans hundone
  refine ⟨hwrites, hdeleted, hobject, hback, hservice.trans hcleared,
    hpatched.trans (congrArg some hservice.symm), ?_⟩
  rintro c rfl hstored
  obtain ⟨exposed, hadded, hseen, hservices⟩ := Strategy.effects_add hstored h
  rw [LawfulRebase.service.base] at hservices
  have hleft :
      exposed.snapshot st s.key.inNamespace = (c.snapshot st s.key.inNamespace).written created :=
    hseen.trans (congrArg (List.foldl Snapshot.written _) (congrArg ([created] ++ ·) hrecord))
  obtain ⟨restored, hremoved, hsnapshot, hrestored⟩ :=
    Strategy.effects_remove st (s := st.desired s) (c := exposed) (halike.key ▸ hservices)
  rw [halike.key, hleft] at hremoved hsnapshot hrestored
  exact ⟨exposed, restored, hadded, hleft, hservices, hremoved, hsnapshot.trans hback, hrestored⟩

open Sample in
/-- A service that names an alias for its host is exposed and removed: its ingress comes and goes,
and nothing is left on it. -/
theorem remove_undoes_add_web : ∃ e created deleted cleared,
    reconciler.strategy.add web {} = .ok e ∧ created.key = ⟨"ns1", "web"⟩ ∧
    (reconciler.strategy.remove e.service (Snapshot.written {} created)).writes =
      [deleted, .patchService ⟨"ns1", "web"⟩ cleared] ∧
    (Snapshot.written {} created).written deleted = {} ∧
    Service.ofJson? (Json.merge cleared e.service.toJson) = some web := by
  have hadd : reconciler.strategy.add web {} = .ok _ := Strategy.add_eq_ok_iff.2 ⟨_, rfl, rfl⟩
  obtain ⟨created, record, deleted, cleared, -, -, -, hkey, hwrites, -, -, hundone, hservice,
      hpatched, -⟩ :=
    remove_undoes_add (by decide) (by decide) aliasIsFree_web (by decide) (by decide)
      (by decide) hadd
  rw [hwrites] at hundone
  exact ⟨_, created, deleted, cleared, hadd, hkey, hwrites, hundone,
    hpatched.trans (congrArg some hservice)⟩

end ServiceExposure
