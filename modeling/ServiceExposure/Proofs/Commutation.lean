import ServiceExposure.Proofs.Following

/-! # Independent services

Two services of a namespace with routing objects and declared keys of their own can be exposed in
either order. Each is handled after the writes for the other, but reads and writes parts that these
left alone. -/

namespace ServiceExposure

/-! ## Edits in either order -/

namespace Edit

/-- Edits of a key can be made in either order if all of them are made for one service, or if all
set the same value. -/
theorem onAll_comm {edits more : List Edit} (key value : String)
    (h : edits = [] ∨ more = [] ∨ ∀ e ∈ edits ++ more, e = .set key value) (old : Option String) :
    onAll (edits ++ more) old = onAll (more ++ edits) old := by
  rcases h with rfl | rfl | h
  · rw [List.nil_append, List.append_nil]
  · rw [List.nil_append, List.append_nil]
  · by_cases hne : edits ++ more = []
    · obtain ⟨rfl, rfl⟩ := List.append_eq_nil_iff.1 hne
      rfl
    · have hswapped : more ++ edits ≠ [] :=
        fun hnil => hne (List.append_eq_nil_iff.2 (List.append_eq_nil_iff.1 hnil).symm)
      have h' : ∀ e ∈ more ++ edits, e = .set key value := fun e he =>
        h e (List.mem_append.2 (List.mem_append.1 he).symm)
      rw [onAll_of_forall_set h hne, onAll_of_forall_set h' hswapped]

/-- Data that end without an entry had none before. -/
theorem eq_empty_of_foldl_apply (edits : List Edit) {data : StringDict}
    (h : (edits.foldl apply data).isEmpty) :
    data = ∅ := by
  refine Dict.ext_get? fun key => ?_
  have hnone : ((edits.foldl apply data).get? key).isSome = false := by
    rw [Dict.get?, List.isEmpty_iff.1 h]
    rfl
  cases hvalue : data.get? key with
  | none => rfl
  | some value =>
    rw [isSome_get?_foldl_apply (Option.isSome_of_eq_some hvalue)] at hnone
    cases hnone

end Edit

namespace ConfigMap

/-- To make edits after others is to make all of them. -/
theorem edit_edit (m : ConfigMap) (edits more : List Edit) :
    (m.edit edits).edit more = m.edit (edits ++ more) := by
  by_cases hempty : (edits.foldl Edit.apply (m.data.getD ∅)).isEmpty
  · have hsame : m.edit edits = m := if_pos hempty
    have hdata : edits.foldl Edit.apply (m.data.getD ∅) = m.data.getD ∅ :=
      (Edit.eq_empty_of_foldl_apply [] hempty).trans
        (Edit.eq_empty_of_foldl_apply edits hempty).symm
    rw [hsame, edit, edit, List.foldl_append, hdata]
  · have hedited : m.edit edits =
        { m with data := some (edits.foldl Edit.apply (m.data.getD ∅)) } := if_neg hempty
    have hlast : ¬((edits ++ more).foldl Edit.apply (m.data.getD ∅)).isEmpty :=
      fun hlast => hempty <| by
        rw [List.foldl_append] at hlast
        rw [Edit.eq_empty_of_foldl_apply more hlast]
        rfl
    have hall : m.edit (edits ++ more) =
        { m with data := some ((edits ++ more).foldl Edit.apply (m.data.getD ∅)) } := if_neg hlast
    rw [List.foldl_append] at hlast hall
    rw [hall, hedited]
    exact if_neg hlast

theorem edit_congr {m : ConfigMap} {edits edits' : List Edit}
    (h : edits.foldl Edit.apply (m.data.getD ∅) = edits'.foldl Edit.apply (m.data.getD ∅)) :
    m.edit edits = m.edit edits' := by
  rw [edit, edit, h]

end ConfigMap

namespace Propagation

/-- The keys that are declared for a service by its name, or on it. Those that ask for the protocol
alone name no service. -/
def scopedKeys (s : Service) (name : String) (m : ConfigMap) : List String :=
  (UrlForm.all.flatMap fun form => ((m.annotation? (form.requestKey s.name)).map keysOf).getD []) ++
    if name = s.name then ownKeys s m else []

/-- Whether what is declared for both of two services is so by the requests for the protocol
alone. -/
def Independent (s t : Service) (name : String) (m : ConfigMap) : Prop :=
  ∀ key ∈ declaredKeys s name m, key ∈ declaredKeys t name m →
    key ∉ scopedKeys s name m ∧ key ∉ scopedKeys t name m

instance (s t : Service) (name : String) (m : ConfigMap) : Decidable (Independent s t name m) :=
  inferInstanceAs (Decidable (∀ key ∈ declaredKeys s name m, key ∈ declaredKeys t name m →
    key ∉ scopedKeys s name m ∧ key ∉ scopedKeys t name m))

variable {settings : Settings} {s t : Service} {name : String} {m : ConfigMap}

/-- What is edited under a key that is not declared by name is set to the protocol. -/
theorem eq_set_of_mem_edits {e : Edit} (h : e ∈ edits settings s name m)
    (hkey : e.key ∉ scopedKeys s name m) :
    e = .set e.key settings.urlProtocol := by
  rw [scopedKeys, List.mem_append, not_or] at hkey
  rcases List.mem_append.1 h with h | h
  · split at h
    · next hname => exact absurd ((if_pos hname).symm ▸ key_ownEdits e h) hkey.2
    · exact absurd h List.not_mem_nil
  · split at h
    · rcases List.mem_append.1 h with h | h
      · obtain ⟨form, hform, h⟩ := List.mem_flatMap.1 h
        split at h
        · obtain ⟨key, hmem, rfl⟩ := List.mem_map.1 h
          exact absurd (List.mem_flatMap.2 ⟨form, hform, hmem⟩) hkey.1
        · exact absurd h List.not_mem_nil
      · obtain ⟨key, -, rfl⟩ := List.mem_map.1 h
        rfl
    · exact absurd h List.not_mem_nil

/-- Independent services can have their way with a configuration map in either order. -/
theorem edited_comm (h : Independent s t name m) :
    edited settings t name (edited settings s name m) =
      edited settings s name (edited settings t name m) := by
  simp only [edited, edits_edit, ConfigMap.edit_edit]
  refine ConfigMap.edit_congr (Dict.ext_get? fun key => ?_)
  simp only [Edit.get?_foldl_apply, List.filter_append]
  refine Edit.onAll_comm key settings.urlProtocol ?_ _
  have hnone (u : Service) (hu : key ∉ declaredKeys u name m) :
      (edits settings u name m).filter (·.key = key) = [] :=
    List.filter_eq_nil_iff.2 fun e he heq => hu (of_decide_eq_true heq ▸ key_edits name e he)
  by_cases hs : key ∈ declaredKeys s name m
  · by_cases ht : key ∈ declaredKeys t name m
    · obtain ⟨hs', ht'⟩ := h key hs ht
      refine .inr (.inr fun e he => ?_)
      rcases List.mem_append.1 he with he | he <;> obtain ⟨hmem, hkey⟩ := List.mem_filter.1 he
      · obtain rfl := of_decide_eq_true hkey
        exact eq_set_of_mem_edits hmem hs'
      · obtain rfl := of_decide_eq_true hkey
        exact eq_set_of_mem_edits hmem ht'
    · exact .inr (.inl (hnone t ht))
  · exact .inl (hnone s hs)

/-- The service that comes last has its way with the one key that it sets. -/
theorem value?_edited_edited {key value : String} (h : edits settings t name m = [.set key value]) :
    (edited settings t name (edited settings s name m)).value? key = some value := by
  rw [edited, edited, edits_edit, h, ConfigMap.value?_edit, List.foldl_cons, List.foldl_nil,
    Edit.get?_apply]
  exact if_pos rfl

/-- A configuration map that asks for nothing gets what the service itself asks for. -/
theorem edits_of_unasked
    (h : ∀ request ∈ ownRequests ++ urlRequests s.name, m.annotation? request = none)
    (hrules : s.setting? Annotation.configYaml = none) :
    edits settings s s.name m = clusterIPEdits s m := by
  have hdeclared (value : String) {request : String} (hrequest : request ∈ ownRequests) :
      setDeclared m request value = [] := by
    rw [setDeclared, h request (List.mem_append_left _ hrequest)]
    rfl
  have hcluster : clusterEdits settings m = [] := by
    simp (disch := decide) only [clusterEdits, hdeclared]
    split <;> split <;> rfl
  have haddress (url : String) : addressEdits settings s url m = [] := by
    simp (disch := decide) only [addressEdits, hdeclared, lineEdits, hrules]
    split <;> rfl
  have hurls (url : String) : urlEdits settings s.name url m = [] := by
    have hform (form : UrlForm) (hmem : form ∈ UrlForm.all) :
        m.annotation? (form.requestKey s.name) = none :=
      h _ (List.mem_append_right _ (List.mem_append_left _ (List.mem_map_of_mem hmem)))
    have hprotocol : m.annotation? Annotation.urlProtocolKey = none :=
      h _ (List.mem_append_right _ (List.mem_append_right _ (List.mem_singleton.2 rfl)))
    rw [urlEdits, hprotocol]
    refine List.append_eq_nil_iff.2 ⟨List.flatMap_eq_nil_iff.2 fun form hmem => ?_, rfl⟩
    rw [hform form hmem]
    split <;> rfl
  rw [edits, if_pos rfl, ownEdits, hcluster]
  cases s.exposedUrl? with
  | none => simp only [List.nil_append, List.append_nil]
  | some url => simp only [haddress, hurls, List.nil_append, List.append_nil]

end Propagation

/-! ## Clusters -/

namespace Strategy

/-- What a service is recorded as depends on the routing object at its home alone. -/
theorem target_eq_of_get? (st : Strategy) (s : Service) {c d : Cluster}
    (hingress : c.ingresses.get? s.home = d.ingresses.get? s.home)
    (hroute : c.routes.get? s.home = d.routes.get? s.home) :
    st.target s (c.snapshot st s.key.inNamespace) =
      st.target s (d.snapshot st s.key.inNamespace) := by
  rw [Service.home] at hingress hroute
  rw [target, target, st.routing_eq_of_get? s]
  · cases st <;> simp [Cluster.snapshot, exposer, Shelf.get?_byName, hingress]
  · cases st <;> simp [Cluster.snapshot, exposer, Shelf.get?_byName, hroute]

end Strategy

namespace Cluster

variable {r : Reconciler} {s t : Service} {c after : Cluster}

/-- What recording a stored service as another, with its routing object and its address in the
configuration maps, makes of a cluster, deployments apart. -/
structure Exposed (r : Reconciler) (s t : Service) (c after : Cluster) : Prop where
  services : after.services = c.services.insert s.key t
  ingresses : Shelf.Revised s.home (r.strategy.ingressAfter s) c.ingresses after.ingresses
  routes : Shelf.Revised s.home (r.strategy.routeAfter s) c.routes after.routes
  configMaps : after.configMaps = (c.configured r.settings t s.key.inNamespace).configMaps

theorem exposed_handled (hstored : c.services.get? s.key = some s) (hwants : r.wants (.added s))
    (h : c.Completes r (.added s)) :
    Exposed r s (r.strategy.target s (c.snapshot r.strategy s.key.inNamespace)) c
      (c.handled r (.added s)) := by
  obtain ⟨last, log, heffects, hlast⟩ := effects_of_completes hwants h
  simp only [Reconciler.plan, hwants, if_true, Notification.service] at heffects
  obtain ⟨hingresses, hroutes⟩ := revised_of_planAdd heffects
  obtain ⟨t, routed, recorded, hstages, rfl⟩ := effects_planAdd heffects
  rw [hlast, hstages.target]
  refine ⟨hstages.services hstored, hingresses, hroutes, ?_⟩
  simp only [propagated, restarted, configured, hstages.configMaps]

theorem Exposed.get?_configMaps {s' : Service} (h : Exposed r s s' c after) (key : ObjectKey) :
    after.configMaps.get? key = (c.configMaps.get? key).map fun m =>
      if key.inNamespace = s.key.inNamespace then Propagation.edited r.settings s' key.name m
      else m := by
  rw [h.configMaps]
  exact Shelf.get?_edited (Propagation.key_edited _ _) key

/-- What one service is exposed as is left as it is by what exposing another makes of the
cluster. -/
theorem Exposed.target_of_ne {first : Cluster} {s' : Service} (h : Exposed r s s' c first)
    (hhome : t.home ≠ s.home) :
    r.strategy.target t (first.snapshot r.strategy t.key.inNamespace) =
      r.strategy.target t (c.snapshot r.strategy t.key.inNamespace) :=
  r.strategy.target_eq_of_get? t (h.ingresses.get?_of_ne hhome) (h.routes.get?_of_ne hhome)

/-- What independent services are exposed as can be made of a cluster in either order. -/
theorem Exposed.comm {s' t' : Service} {first second first' second' : Cluster}
    (hs : Exposed r s s' c first) (hst : Exposed r t t' first second) (ht : Exposed r t t' c first')
    (hts : Exposed r s s' first' second') (hkey : s.key ≠ t.key) (hhome : s.home ≠ t.home)
    (hns : t.key.inNamespace = s.key.inNamespace)
    (hindependent : ∀ name m, c.configMaps.get? ⟨s.key.inNamespace, name⟩ = some m →
      Propagation.Independent s' t' name m) :
    second.services = second'.services ∧ second.ingresses = second'.ingresses ∧
    second.routes = second'.routes ∧
      second.configMaps = second'.configMaps := by
  refine ⟨?_, hs.ingresses.comm hhome hst.ingresses ht.ingresses hts.ingresses,
    hs.routes.comm hhome hst.routes ht.routes hts.routes, Shelf.ext_get? fun key => ?_⟩
  · rw [hst.services, hs.services, hts.services, ht.services, Dict.insert_comm _ hkey]
  · rw [hst.get?_configMaps, hs.get?_configMaps, hts.get?_configMaps, ht.get?_configMaps, hns]
    cases hm : c.configMaps.get? key with
    | none => simp only [Option.map_none]
    | some m =>
      by_cases hin : key.inNamespace = s.key.inNamespace
      · have hindep := hindependent key.name m (by rw [← hin]; exact hm)
        simp only [Option.map_some, hin, if_true, Propagation.edited_comm hindep]
      · simp only [Option.map_some, hin, if_false]

end Cluster

/-! ## Neighbours -/

namespace Sample

variable {s : Service} {configMaps : Shelf ConfigMap}

theorem handles_neighbouring (h : s.key ≠ api.key) :
    (neighbouring s configMaps).Handles reconciler [.added s, .added api] ∧
      (neighbouring s configMaps).Handles reconciler [.added api, .added s] := by
  have hserves := serves_neighbouring configMaps h
  exact ⟨hserves.handles reconciler (by simp [Notification.service]),
    hserves.handles reconciler (by simp [Notification.service])⟩

theorem target_of_ports (h : s.ports ≠ []) (snapshot : Snapshot) :
    reconciler.strategy.target s snapshot = strategy.desired s :=
  IngressStrategy.target_of_ports h strategy snapshot

/-- A configuration map that asks for the URL of the service, and one that asks for the protocol. -/
def requests : Shelf ConfigMap := .ofList [webConfig, asking "protocols" "scheme"]

/-- A configuration map that has the name of one service and asks for the URL of the other, under
the host of the former. -/
def crossing : ConfigMap where
  metadata := {
    name := some "web"
    inNamespace := some "ns1"
    annotations := some (.ofList [(UrlForm.plain.requestKey "api", "web.ns1.example.com")]) }

def crossed : Cluster := neighbouring aliased (.put ∅ crossing)

theorem edits_crossing_api :
    Propagation.edits reconciler.settings (strategy.desired api) "web" crossing =
    [.set "web.ns1.example.com" "http://shared.ns1.example.com"] := by
  have hname : (strategy.desired api).name = "api" := by decide
  have hurl : (strategy.desired api).exposedUrl? = some "http://shared.ns1.example.com" := by decide
  have hform (form : UrlForm) : crossing.annotation? (form.requestKey "api") =
      if form = .plain then some "web.ns1.example.com" else none := by cases form <;> decide
  have htrimmed : Text.withoutLast '/' "http://shared.ns1.example.com" =
      "http://shared.ns1.example.com" := by decide
  rw [edits_of_plain_request "web.ns1.example.com" (by decide) hurl (hname.symm ▸ hform) (by decide)
    (by decide), htrimmed]

theorem edits_crossing_aliased :
    Propagation.edits reconciler.settings (strategy.desired aliased) "web" crossing =
    [.set "web.ns1.example.com" "10.0.0.1"] := by
  have hname : "web" = (strategy.desired aliased).name := by decide
  have hip : Propagation.clusterIP? (strategy.desired aliased) = some "10.0.0.1" := by decide
  have hport : Propagation.targetPort? (strategy.desired aliased) = none := by decide
  rw [hname, Propagation.edits_of_unasked (by decide) (by decide)]
  simp only [Propagation.clusterIPEdits, hip, hport, setting?_clusterIPKey_desired]
  rfl

/-- What becomes of the configuration map when one service is added after the other. -/
theorem get?_configMaps_crossed {s t : Service} (hs : crossed.services.get? s.key = some s)
    (ht : crossed.services.get? t.key = some t) (hkey : s.key ≠ t.key)
    (hwants : reconciler.wants (.added s)) (hwants' : reconciler.wants (.added t))
    (hports : s.ports ≠ []) (hports' : t.ports ≠ []) (hns : s.key.inNamespace = "ns1")
    (hns' : t.key.inNamespace = "ns1") (h : crossed.Handles reconciler [.added s, .added t]) :
    ([.added s, .added t].foldl (Cluster.handled reconciler) crossed).configMaps.get?
      ⟨"ns1", "web"⟩ =
      some (Propagation.edited reconciler.settings (strategy.desired t) "web"
        (Propagation.edited reconciler.settings (strategy.desired s) "web" crossing)) := by
  have hfirst := Cluster.exposed_handled hs hwants h.1
  have ht' : (crossed.handled reconciler (.added s)).services.get? t.key = some t := by
    rw [hfirst.services, Dict.get?_insert_of_ne _ hkey, ht]
  have hsecond := Cluster.exposed_handled ht' hwants' h.2.1
  rw [target_of_ports hports] at hfirst
  rw [target_of_ports hports'] at hsecond
  have hm : crossed.configMaps.get? ⟨"ns1", "web"⟩ = some crossing := Shelf.get?_put_self _ _
  rw [List.foldl_cons, List.foldl_cons, List.foldl_nil, hsecond.get?_configMaps,
    hfirst.get?_configMaps, hm, hns, hns']
  simp only [Option.map_some, if_true]

end Sample

/-! ## Commutation -/

open Cluster

/-- Two services of a namespace with application names of their own can be added in either order, if
what is declared in a configuration map for both of them as they are recorded is so by the requests
for the protocol alone. To record a service declares no keys for it, unless it names one of the
annotations that declare keys as the one to get its host. -/
theorem independent_services_commute {r : Reconciler} {c : Cluster} {s t : Service}
    (hs : c.services.get? s.key = some s) (ht : c.services.get? t.key = some t)
    (hns : t.key.inNamespace = s.key.inNamespace) (hname : s.name ≠ t.name)
    (happ : s.appName ≠ t.appName) (hst : c.Handles r [.added s, .added t])
    (hts : c.Handles r [.added t, .added s]) :
    let recorded (u : Service) := r.strategy.target u (c.snapshot r.strategy u.key.inNamespace)
    (∀ u, (∀ other, Service.aliasKey? u.annotations = some other →
        other ∉ Annotation.configYaml :: Propagation.clusterIPRequests) →
      ∀ name m, Propagation.declaredKeys (recorded u) name m = Propagation.declaredKeys u name m) ∧
    ((∀ name m, c.configMaps.get? ⟨s.key.inNamespace, name⟩ = some m →
        Propagation.Independent (recorded s) (recorded t) name m) →
      let last := [.added s, .added t].foldl (handled r) c
      let last' := [.added t, .added s].foldl (handled r) c
      last.services = last'.services ∧ last.ingresses = last'.ingresses ∧
      last.routes = last'.routes ∧
        last.configMaps = last'.configMaps) := by
  intro recorded
  refine ⟨fun u halias name m => Propagation.declaredKeys_target halias r.strategy _ name m,
    fun hindependent => ?_⟩
  simp only [List.foldl_cons, List.foldl_nil]
  have hidle (u : Service) (hu : r.wants (.added u) = false) (d : Cluster) :
      d.handled r (.added u) = d := by
    rw [handled, run_handle_of_not_wants hu]
  -- a service that is not acted on changes nothing, whichever comes first
  cases hwants : r.wants (.added s) with
  | false => simp only [hidle s hwants, and_self]
  | true =>
    cases hwants' : r.wants (.added t) with
    | false => simp only [hidle t hwants', and_self]
    | true =>
      have hkey : s.key ≠ t.key := fun heq => hname (congrArg ObjectKey.name heq)
      have hhome : s.home ≠ t.home := fun heq => happ (congrArg ObjectKey.name heq)
      have hfirst := exposed_handled hs hwants hst.1
      have hfirst' := exposed_handled ht hwants' hts.1
      have ht' : (c.handled r (.added s)).services.get? t.key = some t := by
        rw [hfirst.services, Dict.get?_insert_of_ne _ hkey, ht]
      have hs' : (c.handled r (.added t)).services.get? s.key = some s := by
        rw [hfirst'.services, Dict.get?_insert_of_ne _ hkey.symm, hs]
      have hsecond := exposed_handled ht' hwants' hst.2.1
      have hsecond' := exposed_handled hs' hwants hts.2.1
      rw [hfirst.target_of_ne hhome.symm] at hsecond
      rw [hfirst'.target_of_ne hhome] at hsecond'
      exact hfirst.comm hsecond hfirst' hsecond' hkey hhome hns hindependent

open Sample in
/-- A service and its neighbour are added in either order, with a configuration map that asks for
the protocol. -/
theorem independent_services_commute_web :
    let c := neighbouring web requests
    let last := [.added web, .added api].foldl (handled reconciler) c
    let last' := [.added api, .added web].foldl (handled reconciler) c
    last.services = last'.services ∧ last.ingresses = last'.ingresses ∧ last.routes = last'.routes ∧
      last.configMaps = last'.configMaps := by
  have hkey : web.key ≠ api.key := by decide
  obtain ⟨hweb, hapi⟩ := get?_services_neighbouring requests hkey
  obtain ⟨hhandles, hhandles'⟩ := handles_neighbouring hkey
  obtain ⟨-, hcommute⟩ :=
    independent_services_commute hweb hapi rfl (by decide) (by decide) hhandles hhandles'
  refine hcommute fun name m hm => ?_
  have hports : web.ports ≠ [] := List.cons_ne_nil _ _
  have hports' : api.ports ≠ [] := List.cons_ne_nil _ _
  simp only [target_of_ports hports, target_of_ports hports']
  have hlisted : requests.toList =
      [(⟨"ns1", "protocols"⟩, asking "protocols" "scheme"),
        (⟨"ns1", "web-config"⟩, webConfig)] := by decide
  have hmem := Shelf.mem_toList_iff (e := (⟨_, name⟩, m)).2 hm
  rw [show (neighbouring web requests).configMaps.toList = _ from hlisted, List.mem_cons,
    List.mem_singleton] at hmem
  rcases hmem with heq | heq
  · cases heq
    decide
  · cases heq
    decide

open Sample in
/-- With the host recorded where the service would declare a key, the order of two services shows in
a key that neither declares for the other. -/
theorem order_of_neighbours_shows :
    aliased.isExposed ∧ api.isExposed ∧ aliased.key.inNamespace = api.key.inNamespace ∧
    aliased.name ≠ api.name ∧
    aliased.appName ≠ api.appName ∧ crossed.services.get? aliased.key = some aliased ∧
    crossed.services.get? api.key = some api ∧
    (∀ e ∈ crossed.configMaps.toList, ∀ key ∈ Propagation.declaredKeys aliased e.1.name e.2,
      key ∉ Propagation.declaredKeys api e.1.name e.2) ∧
    crossed.Handles reconciler [.added aliased, .added api] ∧
    crossed.Handles reconciler [.added api, .added aliased] ∧
    (([.added aliased, .added api].foldl (handled reconciler) crossed).configMaps.get?
      ⟨"ns1", "web"⟩).bind
      (·.value? "web.ns1.example.com") = some "http://shared.ns1.example.com" ∧
    (([.added api, .added aliased].foldl (handled reconciler) crossed).configMaps.get?
      ⟨"ns1", "web"⟩).bind
      (·.value? "web.ns1.example.com") = some "10.0.0.1" := by
  have hkey : aliased.key ≠ api.key := by decide
  have hwants : reconciler.wants (.added aliased) := by decide
  have hports : aliased.ports ≠ [] := List.cons_ne_nil _ _
  have hports' : api.ports ≠ [] := List.cons_ne_nil _ _
  obtain ⟨hs, ht⟩ := get?_services_neighbouring (.put ∅ crossing) hkey
  obtain ⟨hhandles, hhandles'⟩ := handles_neighbouring hkey
  have hlisted : crossed.configMaps.toList = [(⟨"ns1", "web"⟩, crossing)] := rfl
  have hnone : Propagation.declaredKeys aliased "web" crossing = [] := by decide
  refine ⟨by decide, isExposed_api, rfl, by decide, by decide, hs, ht, fun e he key hdeclared => ?_,
    hhandles, hhandles', ?_, ?_⟩
  · rw [hlisted, List.mem_singleton] at he
    rw [he, hnone] at hdeclared
    exact absurd hdeclared List.not_mem_nil
  -- whichever service is added last sets the key
  · rw [get?_configMaps_crossed hs ht hkey hwants isExposed_api hports hports' rfl rfl hhandles,
      Option.bind_some]
    exact Propagation.value?_edited_edited edits_crossing_api
  · rw [get?_configMaps_crossed ht hs hkey.symm isExposed_api hwants hports' hports
      rfl rfl hhandles', Option.bind_some]
    exact Propagation.value?_edited_edited edits_crossing_aliased

end ServiceExposure
