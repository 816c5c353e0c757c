import ServiceExposure.Proofs.RecordedAddress
import ServiceExposure.Proofs.Undoing

/-! # Routes agree with recorded URLs

A route is compared whole with the one that is wanted, each time that its service is exposed. So
whatever route there was, the one that is left is the one for the service, and its host, path and
TLS are those of the URL that is recorded. -/

namespace ServiceExposure

/-! ## What a route keeps -/

/-- Whether all labels, annotations and owners are there still. -/
structure Metadata.Keeps (old new : Metadata) : Prop where
  label : ∀ key value, old.label? key = some value → new.label? key = some value
  annotation : ∀ key value, old.annotation? key = some value → new.annotation? key = some value
  owner : ∀ o ∈ old.ownerReferences.getD [], o ∈ new.ownerReferences.getD []

theorem Dict.get?_insertIfAbsent {κ α : Type} [DecidableEq κ] [KeyOrder κ] {d : Dict κ α} {key : κ}
    {value : α} (h : d.get? key = some value) (other : κ) (absent : α) :
    (d.insertIfAbsent other absent).get? key = some value := by
  rw [insertIfAbsent]
  split
  · exact h
  · next hother =>
    have hne : other ≠ key := by
      rintro rfl
      exact hother (by rw [contains, h]; rfl)
    rw [get?_insert_of_ne _ hne, h]

theorem Metadata.keeps_markedFor (m : Metadata) (s : Service) : m.Keeps (m.markedFor s) where
  label key value h := by
    obtain ⟨labels, hlabels, hvalue⟩ := Option.bind_eq_some_iff.1 h
    simp only [markedFor, label?, hlabels, Option.getD_some, Option.bind_some]
    exact Dict.get?_insertIfAbsent hvalue _ _
  annotation key value h := by
    obtain ⟨annotations, hannotations, hvalue⟩ := Option.bind_eq_some_iff.1 h
    simp only [markedFor, annotation?, hannotations, Option.getD_some, Option.bind_some]
    exact Dict.get?_insertIfAbsent hvalue _ _
  owner o h := by
    simp only [markedFor, Option.getD_some]
    split
    · exact h
    · exact List.mem_append_left _ h

/-! ## The port of a route -/

/-- A port by its name, and by its number if it has none. -/
def ServicePort.reference (p : ServicePort) : PortReference :=
  match nonEmpty? p.name with
  | some name => .name name
  | none => .number p.port

theorem Service.exists_port_of_exposedPort {s : Service} {port : Int32}
    (h : s.exposedPort = .ok port) :
    ∃ p ∈ s.ports, p.port = port := by
  rw [exposedPort] at h
  split at h
  · cases h
  · next first rest hports =>
    have hfirst : first ∈ s.ports := hports ▸ List.mem_cons_self
    split at h
    · split at h
      · next hany =>
        obtain rfl := Except.ok.inj h
        simpa using hany
      · exact ⟨first, hfirst, Except.ok.inj h⟩
    · exact ⟨first, hfirst, Except.ok.inj h⟩

theorem RouteStrategy.exists_targetPort {s : Service} {port : Int32}
    (h : s.exposedPort = .ok port) :
    ∃ p ∈ s.ports, p.port = port ∧ targetPort s port = p.reference := by
  obtain ⟨declared, hdeclared, hport⟩ := Service.exists_port_of_exposedPort h
  cases hfind : s.ports.find? (·.port = port) with
  | none => simpa [hport] using List.find?_eq_none.1 hfind declared hdeclared
  | some p =>
    have hnumber : p.port = port := by simpa using List.find?_some hfind
    refine ⟨p, List.mem_of_find?_eq_some hfind, hnumber, ?_⟩
    rw [targetPort, hfind, ServicePort.reference, hnumber]
    rfl

/-! ## The route that a service ends with -/

/-- What holds of the route that a service is left with, in place of another or as the first. -/
structure RouteStrategy.Serves (st : RouteStrategy) (s : Service) (existing : Option Route)
    (r : Route) : Prop where
  host : r.spec.host = some (st.place s).1
  path : r.spec.path = (st.place s).2
  target : r.spec.target = .service s.name
  port : ∃ p ∈ s.ports, s.exposedPort = .ok p.port ∧ r.spec.port = some ⟨p.reference⟩
  secure : r.spec.tls.isSome ↔ st.tls.enabledFor s
  owner : ∃ o ∈ r.metadata.ownerReferences.getD [], o.uid = s.metadata.uid.getD ""
  keeps : ∀ old, existing = some old → old.metadata.Keeps r.metadata

namespace RouteStrategy

variable {st : RouteStrategy} {s : Service} {port : Int32}

theorem serves_routeFor (h : s.exposedPort = .ok port) (existing : Option Route) :
    st.Serves s existing (st.routeFor s existing port) where
  host := rfl
  path := rfl
  target := rfl
  port := by
    obtain ⟨p, hp, hnumber, htarget⟩ := exists_targetPort h
    exact ⟨p, hp, hnumber ▸ h, congrArg (fun reference => some (RoutePort.mk reference)) htarget⟩
  secure := by
    simp only [routeFor]
    split <;> simp_all
  owner := Metadata.owner_markedFor _ s
  keeps := by
    rintro old rfl
    exact old.metadata.keeps_markedFor s

/-- After the writes for a route it is the wanted one that lies under its name, and all else is as
it was. -/
theorem foldl_written_routingWrites {snapshot : Snapshot} {r : Route} {name : String}
    (hname : r.metadata.displayName = name) :
    (routingWrites (snapshot.routes.get? name) r).foldl Snapshot.written snapshot =
      { snapshot with routes := snapshot.routes.insert name r } := by
  cases hget : snapshot.routes.get? name with
  | none => simp only [routingWrites, List.foldl_cons, List.foldl_nil, Snapshot.written, hname]
  | some stored =>
    simp only [routingWrites]
    split
    · next hsame => rw [List.foldl_nil, Dict.insert_of_get? (hsame ▸ hget)]
    · simp only [List.foldl_cons, List.foldl_nil, Snapshot.written, hname]

theorem exists_route_mem_iff {existing : Option Route} {r : Route} :
    (∃ w ∈ routingWrites existing r, w.kind = .route) ↔ existing ≠ some r := by
  cases existing with
  | none => simp [routingWrites, Write.kind]
  | some stored =>
    by_cases hsame : stored = r
    · simp [routingWrites, hsame]
    · simp [routingWrites, hsame, Write.kind]

end RouteStrategy

/-- Of the writes of an exposure those for routing show in a snapshot. -/
theorem Snapshot.foldl_written_of (snapshot : Snapshot) (observed desired : Service)
    (ws : List Write) :
    (Exposure.of observed desired ws).writes.foldl written snapshot =
      ws.foldl written snapshot := by
  have hpatch (left : Snapshot) : (patchWrites observed desired).foldl written left = left := by
    rw [patchWrites]
    cases Exposure.servicePatch? observed desired <;> rfl
  exact List.foldl_append.trans (hpatch _)

/-! ## The URL -/

namespace Location

variable {l : Location}

/-- A host that is no bare IPv6 address, and has no slash at its end, is as it was in front of the
path. -/
theorem bracketed_address (hip : ¬Net.isIpv6 l.host) (hslash : l.host.toList.getLast? ≠ some '/') :
    Address.bracketed l.address = l.host ++ l.path.getD "" := by
  cases hpath : l.path with
  | none =>
    have haddress : l.address = l.host := address_eq_host_iff.2 hpath
    rw [haddress, Address.bracketed, if_neg hip, Option.getD_none, String.append_empty]
  | some path =>
    have hmem : '/' ∈ path.toList := List.mem_of_mem_head? (l.rooted path hpath).1
    rw [address_of_path hpath, Text.withoutLast, if_neg hslash, Option.getD_some]
    refine Address.bracketed_of_slash_mem ?_
    rw [String.toList_append]
    exact List.mem_append_right _ hmem

end Location

/-- A service that is served under no path of its own has the URL of the place where it is exposed,
and no more. -/
theorem RouteStrategy.exposedUrl?_desired {st : RouteStrategy} {s : Service}
    (hplain : s.setting? Annotation.apiServicePath = none)
    (halias : Service.aliasKey? s.annotations ≠ some Annotation.exposeUrl)
    (hip : ¬Net.isIpv6 (st.place s).1) (hslash : (st.place s).1.toList.getLast? ≠ some '/') :
    (st.desired s).exposedUrl? =
      some (TlsSettings.protocol (st.tls.enabledFor s) ++ "://" ++
        ((st.place s).1 ++ (st.place s).2.getD "")) := by
  have haddress : Address.bracketed (st.fullHost s) = (st.place s).1 ++ (st.place s).2.getD "" :=
    Location.bracketed_address (l := st.location s) hip hslash
  rw [desired, Service.exposedUrl?_recordUrl halias, Service.urlAt, hplain, haddress]

/-! ## Agreement -/

/-- Exposing a service by route leaves the one route under its application name as it is wanted for
the service, be it as it was or written anew, and other routes as they were. It is written just if
it was missing or different. The URL that is recorded has the scheme, host and path of that route.
What is said of the snapshot then holds of each cluster that it was taken of, and the service is
recorded there. -/
theorem stored_route_agrees {st : RouteStrategy} {s : Service} {snapshot : Snapshot} {e : Exposure}
    (hnamed : Named snapshot.routes) (hadd : st.add s snapshot = .ok e) :
    ∃ r, e.writes.foldl Snapshot.written snapshot =
      { snapshot with routes := snapshot.routes.insert s.appName r } ∧
      st.Serves s (snapshot.routes.get? s.appName) r ∧
      ((∃ w ∈ e.writes, w.kind = .route) ↔ snapshot.routes.get? s.appName ≠ some r) ∧
      (s.setting? Annotation.apiServicePath = none →
        Service.aliasKey? s.annotations ≠ some Annotation.exposeUrl →
        ¬Net.isIpv6 (st.place s).1 → (st.place s).1.toList.getLast? ≠ some '/' →
        e.service.exposedUrl? =
          some (TlsSettings.protocol (st.tls.enabledFor s) ++ "://" ++
            ((st.place s).1 ++ (st.place s).2.getD ""))) ∧
      ∀ (c : Cluster) (live : Service), c.snapshot (.route st) s.key.inNamespace = snapshot →
        c.services.get? s.key = some live →
        ∃ after, c.effects e.writes = .ok after ∧
          after.snapshot (.route st) s.key.inNamespace = e.writes.foldl Snapshot.written snapshot ∧
          after.routes.get? s.home = some r ∧
          after.services.get? s.key = some (s.rebase e.service live) := by
  have hadd' : (Strategy.route st).add s snapshot = .ok e := hadd
  obtain ⟨ws, hrouting, rfl⟩ := Strategy.add_eq_ok_iff.1 hadd'
  obtain ⟨port, hport, rfl⟩ := RouteStrategy.routing_eq_ok_iff.1 hrouting
  have hname :
      (st.routeFor s (snapshot.routes.get? s.appName) port).metadata.displayName = s.appName := by
    cases hexisting : snapshot.routes.get? s.appName with
    | none => rfl
    | some stored => exact (hnamed s.appName stored hexisting :)
  have hwritten : (Exposure.of s ((Strategy.route st).desired s)
      (RouteStrategy.routingWrites (snapshot.routes.get? s.appName)
        (st.routeFor s (snapshot.routes.get? s.appName) port))).writes.foldl
        Snapshot.written snapshot =
      { snapshot with
        routes := snapshot.routes.insert s.appName
          (st.routeFor s (snapshot.routes.get? s.appName) port) } := by
    rw [Snapshot.foldl_written_of, RouteStrategy.foldl_written_routingWrites hname]
  refine ⟨st.routeFor s (snapshot.routes.get? s.appName) port, hwritten,
    RouteStrategy.serves_routeFor hport _, ?_, RouteStrategy.exposedUrl?_desired, ?_⟩
  · -- the patch for the service is no write of a route
    rw [← RouteStrategy.exists_route_mem_iff]
    refine ⟨fun ⟨w, hw, hkind⟩ => ?_, fun ⟨w, hw, hkind⟩ => ⟨w, List.mem_append_left _ hw, hkind⟩⟩
    rcases List.mem_append.1 hw with hw | hw
    · exact ⟨w, hw, hkind⟩
    · obtain ⟨patch, rfl⟩ := exists_of_mem_patchWrites hw
      cases hkind
  · rintro c live rfl hlive
    obtain ⟨after, heffects, hseen, hservice⟩ := Strategy.effects_add hlive hadd'
    refine ⟨after, heffects, hseen, ?_, hservice⟩
    rw [Service.home, ← after.get?_routes st, hseen, hwritten, Dict.get?_insert_self]

namespace Sample

/-- Routes that are told apart by path, with certificates. -/
def securedRoutes : RouteStrategy := { pathRoutes with tls.acme := true }

/-- A route of others under the name of the service, which leads elsewhere. -/
def foreignRoute : Route where
  metadata := {
    name := some "web"
    inNamespace := some "ns1"
    labels := some (.ofList [("team", "payments")]) }
  spec := { host := some "web.example.org", target := .service "api" }

end Sample

open Sample in
/-- The route of others is taken over, and keeps its label. -/
theorem stored_route_agrees_foreign :
    let c := (serving web).putRoute foreignRoute
    ∃ e r after, securedRoutes.add web (c.snapshot (.route securedRoutes) "ns1") = .ok e ∧
      (∃ w ∈ e.writes, w.kind = .route) ∧ c.effects e.writes = .ok after ∧
      after.routes.get? web.home = some r ∧
      r.spec.host = some "example.com" ∧ r.spec.path = some "/ns1/web/" ∧ r.spec.tls.isSome ∧
      r.metadata.label? "team" = some "payments" ∧
      e.service.exposedUrl? = some "https://example.com/ns1/web/" := by
  intro c
  have hget :
      (c.snapshot (.route securedRoutes) "ns1").routes.get? web.appName = some foreignRoute := by
    rw [c.get?_routes]
    decide
  have hports : web.ports ≠ [] := List.cons_ne_nil _ _
  obtain ⟨port, hport⟩ := Service.exposedPort_eq_ok_iff.2 hports
  have hadd :
      (Strategy.route securedRoutes).add web (c.snapshot (.route securedRoutes) "ns1") = .ok _ :=
    Strategy.add_eq_ok_iff.2 ⟨_, RouteStrategy.routing_eq_ok_iff.2 ⟨port, hport, rfl⟩, rfl⟩
  obtain ⟨r, -, hserves, hwritten, hurl, hcluster⟩ :=
    stored_route_agrees (c.named_snapshot _ _).routes hadd
  obtain ⟨after, heffects, -, hroute, -⟩ := hcluster c web rfl (get?_services_serving web)
  rw [hget] at hserves hwritten
  have hdifferent : some foreignRoute ≠ some r := fun heq => by
    have hhost := hserves.host
    rw [← Option.some.inj heq] at hhost
    exact absurd hhost (by decide)
  exact ⟨_, r, after, hadd, hwritten.2 hdifferent, heffects, hroute, hserves.host, hserves.path,
    hserves.secure.2 (by decide), (hserves.keeps _ rfl).label "team" "payments" (by decide),
    (hurl (by decide) (by decide) (by decide) (by decide)).trans (by decide)⟩

end ServiceExposure
