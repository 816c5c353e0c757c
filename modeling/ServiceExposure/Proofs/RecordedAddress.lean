import ServiceExposure.Proofs.Recovery

/-! # Recorded addresses

A strategy records the address of the place where it exposes a service, the path included where
services are told apart by path. A strategy that knows no such place records nothing, and what an
earlier one recorded stays. -/

namespace ServiceExposure

/-! ## Locations -/

namespace Text

theorem length_le_length_withoutLast (c : Char) (s : String) :
    s.length ≤ (withoutLast c s).length + 1 := by
  rw [withoutLast]
  split
  · simp only [String.length_ofList, List.length_dropLast, String.length_toList]
    omega
  · omega

end Text

theorem Address.one_lt_length_join_root (first second : String) (rest : List String) :
    1 < (join ("/" :: first :: second :: rest)).length := by
  have hslash : "/".length = 1 := rfl
  cases rest <;> simp only [join, joinTail, String.length_append, hslash] <;> omega

/-- Where a service is reached from outside. -/
structure Location where
  protocol : String
  /-- The host, with its port if the address has one. -/
  host : String
  /-- The path, where services are told apart by path. -/
  path : Option String
  rooted : ∀ p ∈ path, p.toList.head? = some '/' ∧ 1 < p.length

namespace Location

/-- The host, with the path behind it if there is one. -/
def address (l : Location) : String :=
  match l.path with
  | some path => Address.join [l.host, path]
  | none => l.host

variable {l : Location}

theorem address_of_path {path : String} (h : l.path = some path) :
    l.address = Text.withoutLast '/' l.host ++ path := by
  rw [address, h]
  exact Address.join_host_path l.host (l.rooted path h).1

/-- A path shows: no slash at the end of the host could make up for it. -/
theorem address_eq_host_iff : l.address = l.host ↔ l.path = none := by
  cases h : l.path with
  | none => simp [address, h]
  | some path =>
    have hpath := (l.rooted path h).2
    have hhost := Text.length_le_length_withoutLast '/' l.host
    have hne : l.address ≠ l.host := fun heq => by
      rw [address_of_path h] at heq
      have hlength := congrArg String.length heq
      rw [String.length_append] at hlength
      omega
    simp [hne]

end Location

/-! ## Where a strategy exposes a service -/

def IngressStrategy.location (st : IngressStrategy) (s : Service) : Location where
  protocol := TlsSettings.protocol (st.tls.enabledFor s)
  host := (st.place s).host
  path := if st.routesByPath s then (st.place s).path else none
  rooted := by
    intro p hp
    by_cases h : st.routesByPath s
    · simp only [h, if_true, place, Option.mem_some_iff] at hp
      subst hp
      exact ⟨Address.head?_join_root _ _ _, Address.one_lt_length_join_root _ _ _⟩
    · simp [h] at hp

def RouteStrategy.location (st : RouteStrategy) (s : Service) : Location where
  protocol := TlsSettings.protocol (st.tls.enabledFor s)
  host := (st.place s).1
  path := (st.place s).2
  rooted := by
    intro p hp
    by_cases h : st.usePath
    · simp only [h, if_true, place, Option.mem_some_iff] at hp
      subst hp
      exact ⟨Address.head?_join_root _ _ _, Address.one_lt_length_join_root _ _ _⟩
    · simp [place, h] at hp

/-- A host of a service's own. -/
def Service.locationAt (s : Service) (host : String) : Location where
  protocol := s.protocolAt host
  host := host
  path := none
  rooted := nofun

namespace Strategy

/-- Where a service is reached, as far as the strategy knows it. -/
def location? : Strategy → Service → Option Location
  | ingress st, s => some (st.location s)
  | nodePort nodeIP, s => (s.nodeAddress? nodeIP).map s.locationAt
  | loadBalancer, s => s.balancerAddress?.map s.locationAt
  | route st, s => some (st.location s)

/-- Whether a service shares its host with others that have other paths. -/
def tellsApartByPath : Strategy → Service → Bool
  | ingress st, s => st.routesByPath s
  | nodePort _, _ | loadBalancer, _ => false
  | route st, _ => st.usePath

/-- The type that a strategy gives a service. -/
def typed : Strategy → Service → Service
  | ingress _, s | route _, s => s
  | nodePort _, s => s.asNodePort
  | loadBalancer, s => s.asLoadBalancer

variable {st : Strategy} {s : Service} {l : Location}

theorem path_location? (h : st.location? s = some l) : l.path = none ↔ ¬st.tellsApartByPath s := by
  cases st with
  | ingress st =>
    obtain rfl := Option.some.inj h
    by_cases hpath : st.routesByPath s <;>
      simp [tellsApartByPath, IngressStrategy.location, hpath, IngressStrategy.place]
  | nodePort nodeIP =>
    obtain ⟨host, -, rfl⟩ := Option.map_eq_some_iff.1 h
    simp [tellsApartByPath, Service.locationAt]
  | loadBalancer =>
    obtain ⟨host, -, rfl⟩ := Option.map_eq_some_iff.1 h
    simp [tellsApartByPath, Service.locationAt]
  | route st =>
    obtain rfl := Option.some.inj h
    by_cases hpath : st.usePath <;>
      simp [tellsApartByPath, RouteStrategy.location, hpath, RouteStrategy.place]

theorem alike_typed (st : Strategy) (s : Service) : Service.Alike s (st.typed s) := by
  cases st with
  | ingress st | route st => exact .refl s
  | nodePort nodeIP => exact s.alike_asNodePort
  | loadBalancer => exact s.alike_asLoadBalancer

theorem annotations_typed (st : Strategy) (s : Service) :
    (st.typed s).annotations = s.annotations := by
  cases st <;> rfl

/-- The wanted service has the URL of the place where it is exposed. Without such a place it is left
as it is, but for its type. -/
theorem desired_eq (st : Strategy) (s : Service) : st.desired s =
    match st.location? s with
    | some l => (st.typed s).recordUrl l.address l.protocol
    | none => st.typed s := by
  cases st with
  | ingress st =>
    have haddress : (st.location s).address = (st.place s).fullHost := by
      by_cases hpath : st.routesByPath s <;>
        simp [Location.address, IngressStrategy.location, IngressStrategy.place, hpath]
    simp only [location?, haddress]
    rfl
  | nodePort nodeIP =>
    simp only [desired, location?, typed]
    cases s.nodeAddress? nodeIP with
    | none => rfl
    | some host =>
      simp only [Option.map_some, Service.recordAt?, s.alike_asNodePort.protocolAt]; rfl
  | loadBalancer =>
    simp only [desired, location?, typed]
    cases s.balancerAddress? with
    | none => rfl
    | some host =>
      simp only [Option.map_some, Service.recordAt?, s.alike_asLoadBalancer.protocolAt]; rfl
  | route st => rfl

theorem desired_of_location? (h : st.location? s = some l) :
    st.desired s = (st.typed s).recordUrl l.address l.protocol := by
  rw [desired_eq, h]

theorem desired_of_not_location? (h : st.location? s = none) : st.desired s = st.typed s := by
  rw [desired_eq, h]

end Strategy

theorem Strategy.add_eq_ok {st : Strategy} {s : Service} {snapshot : Snapshot} {e : Exposure}
    (h : st.add s snapshot = .ok e) :
    (∃ ws, st.routing s snapshot = .ok ws) ∧ e.service = st.desired s := by
  obtain ⟨ws, hrouting, rfl⟩ := add_eq_ok_iff.1 h
  exact ⟨⟨ws, hrouting⟩, rfl⟩

/-! ## The alias -/

namespace Service

theorem annotation?_alias_recordUrl {s : Service} {key : String}
    (h : aliasKey? s.annotations = some key) (host protocol : String) :
    (s.recordUrl host protocol).annotation? key = some host := by
  rw [annotation?_eq, annotations_recordUrl]
  simp only [h, Dict.get?_insert_self]

end Service

/-- The alias that a service asks for gets what is recorded for its place, and that is the host
alone exactly if services are not told apart by path there. Otherwise the path stands behind the
host. Without a place nothing is recorded. -/
theorem alias_holds_address {st : Strategy} {s : Service} {snapshot : Snapshot} {e : Exposure}
    {key : String} (halias : Service.aliasKey? s.annotations = some key)
    (hkey : key ≠ Annotation.exposeUrl) (hadd : st.add s snapshot = .ok e) :
    (st.location? s = none → e.service.annotations = s.annotations) ∧
      ∀ l, st.location? s = some l →
        e.service.exposedUrl? = some (s.urlAt l.address l.protocol) ∧
        e.service.annotation? key = some l.address ∧
        (e.service.annotation? key = some l.host ↔ ¬st.tellsApartByPath s) ∧
        (st.tellsApartByPath s → ∃ path, l.path = some path ∧ path.toList.head? = some '/' ∧
          e.service.annotation? key = some (Text.withoutLast '/' l.host ++ path)) := by
  obtain ⟨-, hservice⟩ := Strategy.add_eq_ok hadd
  have halike := st.alike_typed s
  have htyped : Service.aliasKey? (st.typed s).annotations = some key :=
    halike.aliasKey?.trans halias
  have hne : Service.aliasKey? (st.typed s).annotations ≠ some Annotation.exposeUrl := fun h =>
    hkey (Option.some.inj (htyped.symm.trans h))
  refine ⟨fun h => ?_, fun l hl => ?_⟩
  · rw [hservice, Strategy.desired_of_not_location? h, st.annotations_typed]
  · have hvalue : e.service.annotation? key = some l.address := by
      rw [hservice, Strategy.desired_of_location? hl, Service.annotation?_alias_recordUrl htyped]
    refine ⟨?_, hvalue, ?_, fun hpath => ?_⟩
    · rw [hservice, Strategy.desired_of_location? hl,
        Service.exposedUrl?_recordUrl hne, halike.urlAt]
    · rw [hvalue, Option.some.injEq, Location.address_eq_host_iff, Strategy.path_location? hl]
    · obtain ⟨path, hsome⟩ := Option.ne_none_iff_exists'.1 fun hnone =>
        (Strategy.path_location? hl).1 hnone hpath
      exact ⟨path, hsome, (l.rooted path hsome).1,
        hvalue.trans (congrArg some (Location.address_of_path hsome))⟩

namespace Sample

/-- The strategy that puts all services under one host. -/
def pathStrategy : IngressStrategy := { strategy with pathMode := some Annotation.byPath }

/-- Routes that are told apart by path. -/
def pathRoutes : RouteStrategy where
  domain := "example.com"
  template := .standard
  routeHost := none
  usePath := true
  tls := strategy.tls

theorem aliasKey?_web : Service.aliasKey? web.annotations = some "example.com/host" := by decide

end Sample

open Sample in
theorem alias_holds_address_web : ∃ e, (Strategy.ingress strategy).add web {} = .ok e ∧
    e.service.exposedUrl? = some "http://web.ns1.example.com" ∧
    e.service.annotation? "example.com/host" = some "web.ns1.example.com" := by
  have hadd : (Strategy.ingress strategy).add web {} = .ok _ :=
    Strategy.add_eq_ok_iff.2 ⟨_, rfl, rfl⟩
  obtain ⟨-, hlocated⟩ := alias_holds_address aliasKey?_web (by decide) hadd
  obtain ⟨-, -, hhost, -⟩ := hlocated _ rfl
  exact ⟨_, hadd, by decide, (hhost.2 (by decide)).trans (by decide)⟩

open Sample in
/-- Under one host for all services, by ingress or by route, the alias for the host gets the path as
well. -/
theorem alias_with_path :
    (∃ e, (Strategy.ingress pathStrategy).add web {} = .ok e ∧
      e.service.exposedUrl? = some "http://example.com/ns1/web/" ∧
      e.service.annotation? "example.com/host" = some "example.com/ns1/web/") ∧
    (∃ e, (Strategy.route pathRoutes).add web {} = .ok e ∧
      e.service.exposedUrl? = some "http://example.com/ns1/web/" ∧
      e.service.annotation? "example.com/host" = some "example.com/ns1/web/") :=
  ⟨⟨_, Strategy.add_eq_ok_iff.2 ⟨_, rfl, rfl⟩, by decide, by decide⟩,
    ⟨_, Strategy.add_eq_ok_iff.2 ⟨_, rfl, rfl⟩, by decide, by decide⟩⟩

/-! ## An earlier URL -/

/-- Two services that differ in the URL that is recorded on them only. -/
structure Service.SameButUrl (s t : Service) : Prop where
  metadata : ∃ annotations, t.metadata = { s.metadata with annotations }
  annotation? : ∀ key, key ≠ Annotation.exposeUrl → t.annotation? key = s.annotation? key
  spec : t.spec = s.spec

namespace Service.SameButUrl

variable {s t : Service} (h : SameButUrl s t)

theorem withUrl (s : Service) (url : String) :
    SameButUrl s (s.withAnnotations (s.annotations.insert Annotation.exposeUrl url)) where
  metadata := ⟨_, rfl⟩
  annotation? key hkey := by
    rw [annotation?_eq, annotation?_eq, annotations_withAnnotations,
      Dict.get?_insert_of_ne _ (Ne.symm hkey)]
  spec := rfl

include h

theorem alike : Alike s t where
  metadata := h.metadata
  annotation? key _ hurl := h.annotation? key hurl
  ports := by rw [ports, ports, h.spec]

theorem insert_annotations (url : String) :
    t.annotations.insert Annotation.exposeUrl url =
      s.annotations.insert Annotation.exposeUrl url := by
  refine Dict.ext_get? fun key => ?_
  by_cases hkey : Annotation.exposeUrl = key
  · rw [hkey, Dict.get?_insert_self, Dict.get?_insert_self]
  · rw [Dict.get?_insert_of_ne _ hkey, Dict.get?_insert_of_ne _ hkey, ← annotation?_eq,
      ← annotation?_eq, h.annotation? key (Ne.symm hkey)]

/-- A URL that is recorded takes the place of either. -/
theorem recordUrl (host protocol : String) :
    t.recordUrl host protocol = s.recordUrl host protocol := by
  have hannotations :
      (t.recordUrl host protocol).annotations = (s.recordUrl host protocol).annotations := by
    rw [annotations_recordUrl, annotations_recordUrl, h.alike.aliasKey?, h.alike.urlAt,
      h.insert_annotations]
  obtain ⟨annotations, hmetadata⟩ := h.metadata
  have hsame (annotations : StringDict) :
      t.withAnnotations annotations = s.withAnnotations annotations := by
    simp only [withAnnotations, hmetadata, h.spec]
  calc t.recordUrl host protocol
    _ = t.withAnnotations (t.recordUrl host protocol).annotations := rfl
    _ = s.withAnnotations (s.recordUrl host protocol).annotations := by rw [hannotations, hsame]
    _ = s.recordUrl host protocol := rfl

theorem typed (st : Strategy) : SameButUrl (st.typed s) (st.typed t) where
  metadata := by
    obtain ⟨annotations, hmetadata⟩ := h.metadata
    exact ⟨annotations, by cases st <;> exact hmetadata⟩
  annotation? key hkey := by
    rw [annotation?_eq, annotation?_eq, st.annotations_typed, st.annotations_typed,
      ← annotation?_eq, ← annotation?_eq, h.annotation? key hkey]
  spec := by cases st <;> simp only [Strategy.typed, asNodePort, asLoadBalancer, h.spec]

theorem location? (st : Strategy) : st.location? t = st.location? s := by
  have hlocation : t.locationAt = s.locationAt := by
    funext host
    simp only [locationAt, h.alike.protocolAt]
  cases st with
  | ingress st =>
    have hpath : st.routesByPath t = st.routesByPath s := by
      rw [IngressStrategy.routesByPath, IngressStrategy.routesByPath,
        h.alike.setting? Annotation.pathMode (by decide) (by decide)]
    simp only [Strategy.location?, IngressStrategy.location, h.alike.ingressPlace,
      h.alike.enabledFor, hpath]
  | nodePort nodeIP => rw [Strategy.location?, Strategy.location?, hlocation, h.alike.nodeAddress?]
  | loadBalancer =>
    rw [Strategy.location?, Strategy.location?, hlocation, balancerAddress?,
      balancerAddress?, h.spec]
  | route st =>
    simp only [Strategy.location?, RouteStrategy.location, h.alike.routePlace, h.alike.enabledFor]

theorem desired {st : Strategy} {l : Location} (hl : st.location? s = some l) :
    st.desired t = st.desired s := by
  rw [Strategy.desired_of_location? hl, Strategy.desired_of_location? ((h.location? st).trans hl),
    (h.typed st).recordUrl]

end Service.SameButUrl

theorem Service.exposedUrl?_of_annotations {s t : Service} (h : t.annotations = s.annotations) :
    t.exposedUrl? = s.exposedUrl? := by
  rw [exposedUrl?, exposedUrl?, setting?, setting?, annotation?_eq, annotation?_eq, h]

/-- What is planned for two services that end up the same differs in the patch for the service
only. -/
theorem Service.SameButUrl.planAdd {s t : Service} (h : SameButUrl s t) {r : Reconciler}
    {l : Location} (hl : r.strategy.location? s = some l) (snapshot : Snapshot) {ws : List Write}
    (hrouting : r.strategy.routing s snapshot = .ok ws) :
    (r.planAdd t snapshot).filter (fun w => !w.isServicePatch) =
      (r.planAdd s snapshot).filter (fun w => !w.isServicePatch) := by
  have hrouting' : r.strategy.routing t snapshot = .ok ws :=
    (h.alike.routing r.strategy snapshot).trans hrouting
  simp only [Reconciler.planAdd_of_snapshot, Strategy.routed_of_routing hrouting,
    Strategy.routed_of_routing hrouting', Strategy.target_of_routing hrouting,
    Strategy.target_of_routing hrouting', h.desired hl, List.filter_append, filter_patchWrites]

theorem Service.SameButUrl.add {s t : Service} (h : SameButUrl s t) {r : Reconciler}
    {snapshot : Snapshot} {e : Exposure} (hadd : r.strategy.add s snapshot = .ok e) :
    ∃ e', r.strategy.add t snapshot = .ok e' ∧
      ((r.strategy.location? s).isSome → e'.service = e.service ∧
        (r.planAdd t snapshot).filter (fun w => !w.isServicePatch) =
          (r.planAdd s snapshot).filter fun w => !w.isServicePatch) ∧
      (r.strategy.location? s = none → e'.service.exposedUrl? = t.exposedUrl?) := by
  obtain ⟨⟨ws, hrouting⟩, hservice⟩ := Strategy.add_eq_ok hadd
  refine ⟨_, Strategy.add_eq_ok_iff.2 ⟨ws, (h.alike.routing _ snapshot).trans hrouting, rfl⟩,
    fun hsome => ?_, fun hnone => ?_⟩
  · obtain ⟨l, hl⟩ := Option.isSome_iff_exists.1 hsome
    rw [hservice]
    exact ⟨h.desired hl, h.planAdd hl snapshot hrouting⟩
  · refine Service.exposedUrl?_of_annotations ?_
    rw [← r.strategy.annotations_typed t,
      ← Strategy.desired_of_not_location? ((h.location? _).trans hnone)]
    rfl

/-- Whatever URL a service had before, exposing it succeeds or not. Where a strategy knows the place
of a service it makes the same of it, and plans the same for the rest of the namespace. Where it
knows none, the service keeps the URL that it had. So what is recorded depends on the earlier URL
exactly if the strategy knows no place. -/
theorem earlier_url_kept {r : Reconciler} {s : Service} {snapshot : Snapshot} {e : Exposure}
    (hadd : r.strategy.add s snapshot = .ok e) :
    (∀ t, s.SameButUrl t → ∃ e', r.strategy.add t snapshot = .ok e' ∧
      ((r.strategy.location? s).isSome → e'.service = e.service ∧
        (r.planAdd t snapshot).filter (fun w => !w.isServicePatch) =
          (r.planAdd s snapshot).filter fun w => !w.isServicePatch) ∧
      (r.strategy.location? s = none → e'.service.exposedUrl? = t.exposedUrl?)) ∧
    ((∀ t e', s.SameButUrl t → r.strategy.add t snapshot = .ok e' →
      e'.service.exposedUrl? = e.service.exposedUrl?) ↔
      (r.strategy.location? s).isSome) := by
  refine ⟨fun t hsame => hsame.add hadd, fun h => ?_, fun hsome t e' hsame hadd' => ?_⟩
  · -- two different earlier URLs would both be kept
    by_contra hnone
    rw [Bool.not_eq_true, Option.isSome_eq_false_iff, Option.isNone_iff_eq_none] at hnone
    have hkept (url : String) (hurl : url ≠ "") : e.service.exposedUrl? = some url := by
      have hsame := Service.SameButUrl.withUrl s url
      obtain ⟨e', hadd', -, hurl'⟩ := hsame.add hadd
      rw [← h _ e' hsame hadd', hurl' hnone, Service.exposedUrl?, Service.setting?,
        Service.annotation?_eq, Service.annotations_withAnnotations, Dict.get?_insert_self]
      simp [nonEmpty?, hurl]
    have hsame := (hkept "a" (by decide)).symm.trans (hkept "b" (by decide))
    exact absurd hsame (by decide)
  · obtain ⟨e'', hadd'', hequal, -⟩ := hsame.add hadd
    obtain rfl := Except.ok.inj (hadd'.symm.trans hadd'')
    rw [(hequal hsome).1]

namespace Sample

/-- The service with the URL that it had on another node. -/
def moved : Service :=
  web.withAnnotations (web.annotations.insert Annotation.exposeUrl "http://10.0.0.9:31000")

theorem sameButUrl_moved : web.SameButUrl moved := .withUrl web _

/-- The controller with a strategy of its own. -/
def controller (st : Strategy) : Reconciler := { reconciler with strategy := st }

theorem exposedUrl?_moved : moved.exposedUrl? = some "http://10.0.0.9:31000" := by decide

end Sample

open Sample in
theorem earlier_url_kept_moved :
    (∃ e, (Strategy.ingress strategy).add moved {} = .ok e ∧
      e.service = (Strategy.ingress strategy).desired web) ∧
      ∃ e, Strategy.loadBalancer.add moved {} = .ok e ∧
        e.service.exposedUrl? = some "http://10.0.0.9:31000" := by
  have hingress : (controller (.ingress strategy)).strategy.add web {} = .ok _ :=
    Strategy.add_eq_ok_iff.2 ⟨_, rfl, rfl⟩
  have hbalancer : (controller .loadBalancer).strategy.add web {} = .ok _ :=
    Strategy.add_eq_ok_iff.2 ⟨_, rfl, rfl⟩
  obtain ⟨e, hadd, hplaced, -⟩ := (earlier_url_kept hingress).1 moved sameButUrl_moved
  obtain ⟨e', hadd', -, hunplaced⟩ := (earlier_url_kept hbalancer).1 moved sameButUrl_moved
  exact ⟨⟨e, hadd, (hplaced rfl).1⟩, e', hadd', (hunplaced (by decide)).trans exposedUrl?_moved⟩

open Sample in
/-- A service whose port is not given out on the node yet keeps the URL that it had on another node,
which is then carried into a configuration map. Without an earlier URL it gets none. -/
theorem stale_url_propagated :
    (∃ e, (Strategy.nodePort "10.0.0.5").add web {} = .ok e ∧ e.service.exposedUrl? = none) ∧
    (∃ e, (Strategy.nodePort "10.0.0.5").add moved {} = .ok e ∧
      e.service.exposedUrl? = some "http://10.0.0.9:31000" ∧
      ∃ m ∈ cluster.outdated reconciler.settings e.service "ns1",
        m.data.bind (·.get? "url") = some "http://10.0.0.9:31000") := by
  have hurl : ((Strategy.nodePort "10.0.0.5").desired moved).exposedUrl? =
      some "http://10.0.0.9:31000" := by decide
  have hunassigned : ∃ e, (Strategy.nodePort "10.0.0.5").add web {} = .ok e ∧
      e.service.exposedUrl? = none :=
    ⟨_, Strategy.add_eq_ok_iff.2 ⟨_, rfl, rfl⟩, by decide⟩
  have houtdated :=
    outdated_cluster (t := (Strategy.nodePort "10.0.0.5").desired moved) (by decide) hurl
  have hwritten :
      _ ∈ cluster.outdated reconciler.settings
        ((Strategy.nodePort "10.0.0.5").desired moved) "ns1" :=
    houtdated ▸ List.mem_singleton.2 rfl
  have hvalue : (Dict.insert ∅ "url" (Text.withoutLast '/' "http://10.0.0.9:31000")).get? "url" =
      some "http://10.0.0.9:31000" := by decide
  exact ⟨hunassigned, _, Strategy.add_eq_ok_iff.2 ⟨_, rfl, rfl⟩, hurl, _, hwritten, hvalue⟩

end ServiceExposure
