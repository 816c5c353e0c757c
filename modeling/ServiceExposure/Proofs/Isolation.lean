import ServiceExposure.Proofs.RoutingObjects

/-! # Services that share an ingress

Services with the same application name share an ingress. Exposing one of them keeps the paths of
the others as long as these stand in the first rule under the host of the service; withdrawing one
takes the ingress away from all. No other ingress is touched. -/

namespace ServiceExposure

namespace Ingress

/-- Whether a rule for the host has the path. -/
def LeadsTo (i : Ingress) (host : Option String) (p : IngressPath) : Prop :=
  ∃ rule ∈ i.rules, rule.host = host ∧ p ∈ rule.paths

/-- Whether the first rule is for the host and has the path. -/
def FirstLeadsTo (i : Ingress) (host : Option String) (p : IngressPath) : Prop :=
  ∃ rule, i.rules.head? = some rule ∧ rule.host = host ∧ p ∈ rule.paths

end Ingress

/-! ## The ingress of a service -/

namespace IngressStrategy

/-- An ingress that was made for a service has no host but that of the service. -/
theorem leadsTo_ingressFor_iff {st : IngressStrategy} {s : Service} {existing : Option Ingress}
    {port : Int32} {host : Option String} {p : IngressPath} :
    (st.ingressFor s existing port).LeadsTo host p ↔ host = some (st.place s).host ∧
      (p = pathFor s.name port (st.place s).path ∨ p ∈ boundPaths existing) := by
  have hrules : (st.ingressFor s existing port).rules = [{
      host := some (st.place s).host
      http := some { paths := pathFor s.name port (st.place s).path :: boundPaths existing } }] :=
    rfl
  simp only [Ingress.LeadsTo, hrules, List.mem_singleton, exists_eq_left]
  exact and_congr eq_comm List.mem_cons

theorem mem_boundPaths {existing : Option Ingress} {p : IngressPath} :
    p ∈ boundPaths existing ↔ ∃ i, existing = some i ∧ ∃ host, i.FirstLeadsTo host p := by
  cases existing with
  | none => simp [boundPaths]
  | some i => cases hrules : i.rules <;> simp [boundPaths, Ingress.FirstLeadsTo, hrules]

end IngressStrategy

namespace Cluster

/-- Whether an ingress has the path under the host. -/
def LeadsTo (c : Cluster) (key : ObjectKey) (host : Option String) (p : IngressPath) : Prop :=
  ∃ i, c.ingresses.get? key = some i ∧ i.LeadsTo host p

def FirstLeadsTo (c : Cluster) (key : ObjectKey) (host : Option String) (p : IngressPath) : Prop :=
  ∃ i, c.ingresses.get? key = some i ∧ i.FirstLeadsTo host p

theorem FirstLeadsTo.leadsTo {c : Cluster} {key : ObjectKey} {host : Option String}
    {p : IngressPath} (h : c.FirstLeadsTo key host p) : c.LeadsTo key host p := by
  obtain ⟨i, hi, rule, hfirst, hhost, hp⟩ := h
  exact ⟨i, hi, rule, List.mem_of_mem_head? hfirst, hhost, hp⟩

variable {r : Reconciler} {st : IngressStrategy} {s : Service} {c after : Cluster}

/-- To expose a service leaves the ingresses as they are, or writes the one that the service is
placed in. -/
theorem ingresses_of_planAdd (hst : r.strategy = .ingress st)
    (h : c.effects (r.planAdd s (c.snapshot r.strategy s.key.inNamespace)) = .ok after) :
    (st.IsPlaced s c ∨ s.ports = []) ∧ after.ingresses = c.ingresses ∨
      ¬st.IsPlaced s c ∧ ∃ port, s.exposedPort = .ok port ∧
        after.ingresses = c.ingresses.put (st.ingressFor s (c.ingresses.get? s.home) port) := by
  obtain ⟨t, routed, recorded, hstages, rfl⟩ := effects_planAdd h
  have hrecorded : recorded.ingresses = routed.ingresses := hstages.same_but_services.ingresses
  have hrouting := hstages.routing
  -- of the stages only the first has to do with ingresses
  rw [Strategy.routed, hst] at hrouting
  rw [show (recorded.propagated _ _ _).ingresses = routed.ingresses from hrecorded]
  split at hrouting
  · next ws hws =>
    rcases Strategy.effects_ingress_routing hws with
      ⟨hplaced, rfl⟩ | ⟨hplaced, port, hport, heffects⟩
    · cases hrouting
      exact .inl ⟨.inl hplaced, rfl⟩
    · obtain rfl := Except.ok.inj (heffects.symm.trans hrouting)
      exact .inr ⟨hplaced, port, hport, rfl⟩
  · next failure hfailed =>
    cases hrouting
    exact .inl ⟨.inr (Strategy.ports_of_routingWrites_error hfailed), rfl⟩

/-- An ingress that is written has the path of the service and those of what was the first rule,
whatever host that was for, under the host of the service. -/
theorem leadsTo_written_iff {port : Int32}
    (hwritten : after.ingresses = c.ingresses.put (st.ingressFor s (c.ingresses.get? s.home) port))
    {host : Option String} {p : IngressPath} :
    after.LeadsTo s.home host p ↔ host = some (st.place s).host ∧
      (p = IngressStrategy.pathFor s.name port (st.place s).path ∨ ∃ former,
        c.FirstLeadsTo s.home former p) := by
  have hget := c.get?_home_putIngress st s port
  have hfirst : (∃ former, c.FirstLeadsTo s.home former p) ↔
      p ∈ IngressStrategy.boundPaths (c.ingresses.get? s.home) := by
    rw [IngressStrategy.mem_boundPaths]
    exact ⟨fun ⟨former, i, hi, hp⟩ => ⟨i, hi, former, hp⟩,
      fun ⟨i, hi, former, hp⟩ => ⟨former, i, hi, hp⟩⟩
  rw [hfirst, ← IngressStrategy.leadsTo_ingressFor_iff, LeadsTo, hwritten]
  refine ⟨fun ⟨i, hi, hp⟩ => ?_, fun hp => ⟨_, hget, hp⟩⟩
  rwa [Option.some.inj (hget.symm.trans hi)]

/-- To expose a service keeps the paths of other ingresses, all paths if nothing is written, and
those of a first rule for its host. -/
theorem leadsTo_of_planAdd (hst : r.strategy = .ingress st)
    (h : c.effects (r.planAdd s (c.snapshot r.strategy s.key.inNamespace)) = .ok after)
    {key : ObjectKey} {host : Option String} {p : IngressPath} (hp : c.LeadsTo key host p)
    (hkept : key = s.home → st.IsPlaced s c ∨ s.ports = [] ∨
      (c.FirstLeadsTo key host p ∧ host = some (st.place s).host)) :
    after.LeadsTo key host p := by
  rcases ingresses_of_planAdd hst h with ⟨-, hsame⟩ | ⟨hplaced, port, hport, hwritten⟩
  · rwa [LeadsTo, hsame]
  by_cases hkey : key = s.home
  · subst hkey
    rcases hkept rfl with hplaced' | hports | ⟨hfirst, rfl⟩
    · exact absurd hplaced' hplaced
    -- a service without ports has no port to be exposed at
    · simp [Service.exposedPort, hports] at hport
    · exact (leadsTo_written_iff hwritten).2 ⟨rfl, .inr ⟨_, hfirst⟩⟩
  · obtain ⟨i, hi, hp⟩ := hp
    have hne : Resource.key (st.ingressFor s (c.ingresses.get? s.home) port) ≠ key :=
      fun heq => hkey (heq.symm.trans (c.key_ingressFor st s port))
    rw [LeadsTo, hwritten]
    exact ⟨i, (c.ingresses.get?_put_of_ne hne).trans hi, hp⟩

/-- To withdraw a service takes its ingress away and leaves the others. -/
theorem get?_ingresses_of_unrouting (hst : r.strategy = .ingress st)
    (h : c.effects (r.strategy.unrouting s (c.snapshot r.strategy s.key.inNamespace)) = .ok after)
    (key : ObjectKey) :
    after.ingresses.get? key = if key = s.home then none else c.ingresses.get? key := by
  have hrevised := (Strategy.revised_unrouting h).1 key
  rwa [hst] at hrevised

/-- Whatever withdraws a service leaves the ingresses like that. -/
theorem get?_ingresses_of_plan {n : Notification} (hst : r.strategy = .ingress st)
    (hwants : r.wants n) (hn : ¬n.Exposes n.service)
    (h : c.effects (r.plan n (c.snapshot r.strategy n.service.key.inNamespace)) = .ok after)
    (key : ObjectKey) :
    after.ingresses.get? key = if key = n.service.home then none else c.ingresses.get? key := by
  have hrevised := (revised_of_plan hwants hn h).1 key
  rwa [hst] at hrevised

end Cluster

/-! ## A shared ingress -/

open Cluster

namespace Sample

/-- A service with an ingress that it may share. -/
def api : Service where
  metadata := {
    name := some "api"
    inNamespace := some "ns1"
    uid := some "api-uid"
    labels := some (.ofList [ Annotation.exposeLabel])
    annotations := some (.ofList [( Annotation.ingressName, "shared")]) }
  spec := some { ports := some [{ port := 80 }] }

def pathToWeb : IngressPath := IngressStrategy.pathFor "web" 80 none

def pathToDocs : IngressPath := IngressStrategy.pathFor "docs" 80 none

/-- An ingress with the path of another service under a host, and with that of a third one in a rule
after that. -/
def shared (host : String) : Ingress where
  metadata := { name := some "shared", inNamespace := some "ns1" }
  spec := some { rules := some [
    { host := some host, http := some { paths := [pathToWeb] } },
    { host := some "docs.example.org", http := some { paths := [pathToDocs] } }] }

def sharing (host : String) : Cluster where
  services := .insert ∅ api.key api
  ingresses := .put ∅ (shared host)

theorem get?_ingresses_sharing (host : String) :
    (sharing host).ingresses.get? api.home = some (shared host) := by
  have hhome : api.home = Resource.key (shared host) := show api.home = ⟨"ns1", "shared"⟩ by decide
  rw [hhome]
  exact Shelf.get?_put_self _ _

theorem isExposed_api : api.isExposed := by decide

theorem firstLeadsTo_sharing (host : String) :
    (sharing host).FirstLeadsTo api.home (some host) pathToWeb :=
  ⟨shared host, get?_ingresses_sharing host, _, rfl, rfl, List.mem_singleton.2 rfl⟩

theorem leadsTo_docs_sharing (host : String) :
    (sharing host).LeadsTo api.home (some "docs.example.org") pathToDocs :=
  ⟨shared host, get?_ingresses_sharing host, _,
    List.mem_cons_of_mem _ (List.mem_singleton.2 rfl), rfl, List.mem_singleton.2 rfl⟩

theorem not_firstLeadsTo_docs_sharing (host : String) (former : Option String) :
    ¬(sharing host).FirstLeadsTo api.home former pathToDocs := by
  rintro ⟨i, hi, rule, hfirst, -, hp⟩
  cases (get?_ingresses_sharing host).symm.trans hi
  cases hfirst
  exact absurd (show pathToDocs ∈ [pathToWeb] from hp) (by decide)

theorem not_isPlaced_api (host : String) : ¬strategy.IsPlaced api (sharing host) := by
  rw [IngressStrategy.IsPlaced, get?_ingresses_sharing]
  change ¬[pathToWeb].any _
  decide

theorem host_api : (strategy.place api).host = "shared.ns1.example.com" := by
  have hname : api.appName = "shared" := by decide
  have hpath : strategy.routesByPath api = false := by decide
  have hhost : api.setting? Annotation.hostName = none := by decide
  simp only [IngressStrategy.place, hpath, hname, hhost]
  decide

/-- To withdraw a service takes the paths of others away. -/
theorem withdrawn_api (host : String) : ∃ k after,
    run (reconciler.handle store (.deleted api)) (sharing host) = (.ok k, after) ∧
      after.ingresses.get? api.home = none := by
  have hwants : reconciler.wants (.deleted api) := isExposed_api
  obtain ⟨unrouted, hunrouting, -, -⟩ := reconciler.strategy.unrouting_settles api
  have heffects : (sharing host).effects (reconciler.plan (.deleted api)
      ((sharing host).snapshot reconciler.strategy api.key.inNamespace)) = .ok unrouted := by
    simp only [Reconciler.plan, hwants, if_true, filter_planRemove]
    exact hunrouting
  obtain ⟨k, after, hrun, hend⟩ := run_handle_cleared hwants heffects []
  have hingresses : after.ingresses = unrouted.ingresses := (congrArg ingresses hend :)
  refine ⟨k, after, hrun, ?_⟩
  rw [hingresses]
  exact (get?_ingresses_of_unrouting rfl hunrouting api.home).trans (if_pos rfl)

/-- To expose a service writes its ingress. -/
theorem exposed_api (host : String) : ∃ k after port,
    run (reconciler.handle store (.added api)) (sharing host) = (.ok k, after) ∧ after.ingresses =
      (sharing host).ingresses.put
        (strategy.ingressFor api ((sharing host).ingresses.get? api.home) port) := by
  obtain ⟨t, routed, recorded, hstages⟩ :=
    exists_stages (s := api) (c := sharing host) reconciler (Dict.get?_insert_self _ _ _)
  obtain ⟨k, after, hrun, hend⟩ :=
    run_handle_of_stages (n := .added api) ⟨.inl rfl, isExposed_api⟩ rfl hstages []
  rcases ingresses_of_planAdd rfl hstages.effects
    with ⟨hplaced | hports, -⟩ | ⟨-, port, -, hwritten⟩
  · exact absurd hplaced (not_isPlaced_api host)
  · cases hports
  · exact ⟨k, after, port, hrun, (congrArg ingresses hend).trans hwritten⟩

end Sample

/-! ## Isolation -/

/-- Handling a notification keeps the paths of ingresses, each in its ingress and under its host,
except in the ingress of the service. To expose the service keeps them there, if there is nothing to
write or they stand in a first rule for the host of the service; to withdraw it takes the ingress
away. -/
theorem ingress_paths_kept {r : Reconciler} {st : IngressStrategy} {n : Notification}
    {c after : Cluster} {k : Nat} (hst : r.strategy = .ingress st)
    (h : run (r.handle store n) c = (.ok k, after)) :
    (∀ key host p, c.LeadsTo key host p →
      (key = n.service.home → r.wants n →
        n.Exposes n.service ∧ (st.IsPlaced n.service c ∨ n.service.ports = [] ∨
        (c.FirstLeadsTo key host p ∧ host = some (st.place n.service).host))) →
        after.LeadsTo key host p) ∧
      (r.wants n → ¬n.Exposes n.service → after.ingresses.get? n.service.home = none) := by
  cases hwants : r.wants n with
  | false =>
    rw [run_handle_of_not_wants hwants] at h
    obtain rfl : c = after := (Prod.mk.inj h).2
    exact ⟨fun key host p hp _ => hp, by simp⟩
  | true =>
    obtain ⟨-, -, last, heffects, rfl⟩ := effects_of_run_handle hwants h
    by_cases hn : n.Exposes n.service
    · obtain ⟨-, hallows, hplan⟩ :=
        r.plan_of_exposes hn (c.snapshot r.strategy n.service.key.inNamespace)
      rw [hplan (hallows.symm.trans hwants)] at heffects
      refine ⟨fun key host p hp hkept => ?_, fun _ hwithdraws => absurd hn hwithdraws⟩
      exact leadsTo_of_planAdd hst heffects hp fun heq => (hkept heq rfl).2
    · have hget := get?_ingresses_of_plan hst hwants hn heffects
      refine ⟨fun key host p ⟨i, hi, hp⟩ hkept => ?_, fun _ _ => (hget _).trans (if_pos rfl)⟩
      -- the ingress that is taken away is not among those to be kept
      have hne : key ≠ n.service.home := fun heq => hn (hkept heq rfl).1
      exact ⟨i, (hget key).trans ((if_neg hne).trans hi), hp⟩

/-- To expose a service leaves the ingresses as they are, or makes one rule of its ingress: that has
the path of the service and those of what was the first rule, whatever host that was for, and
nothing else is led to. -/
theorem exposed_ingress_leadsTo_iff {r : Reconciler} {st : IngressStrategy} {n : Notification}
    {c after : Cluster} {k : Nat} (hst : r.strategy = .ingress st) (hn : n.Exposes n.service)
    (h : run (r.handle store n) c = (.ok k, after)) :
    after.ingresses = c.ingresses ∨ ∃ port, n.service.exposedPort = .ok port ∧ ∀ host p,
      after.LeadsTo n.service.home host p ↔ host = some (st.place n.service).host ∧
        (p = IngressStrategy.pathFor n.service.name port (st.place n.service).path ∨
          ∃ former, c.FirstLeadsTo n.service.home former p) := by
  cases hwants : r.wants n with
  | false =>
    rw [run_handle_of_not_wants hwants] at h
    exact .inl (congrArg ingresses (Prod.mk.inj h).2.symm)
  | true =>
    obtain ⟨-, -, last, heffects, rfl⟩ := effects_of_run_handle hwants h
    obtain ⟨-, hallows, hplan⟩ :=
      r.plan_of_exposes hn (c.snapshot r.strategy n.service.key.inNamespace)
    rw [hplan (hallows.symm.trans hwants)] at heffects
    rcases ingresses_of_planAdd hst heffects with ⟨-, hsame⟩ | ⟨-, port, hport, hwritten⟩
    · exact .inl hsame
    · exact .inr ⟨port, hport, fun host p => leadsTo_written_iff hwritten⟩

/-- The paths of the first rule stay in their ingress whatever their host, as long as the service is
exposed. -/
theorem first_rule_paths_kept {r : Reconciler} {st : IngressStrategy} {n : Notification}
    {c after : Cluster} {k : Nat} (hst : r.strategy = .ingress st) (hn : n.Exposes n.service)
    (h : run (r.handle store n) c = (.ok k, after)) {former : Option String} {p : IngressPath}
    (hp : c.FirstLeadsTo n.service.home former p) :
    ∃ host, after.LeadsTo n.service.home host p := by
  rcases exposed_ingress_leadsTo_iff hst hn h with hsame | ⟨port, -, hleads⟩
  · refine ⟨former, ?_⟩
    rw [LeadsTo, hsame]
    exact hp.leadsTo
  · exact ⟨_, (hleads _ p).2 ⟨rfl, .inr ⟨former, hp⟩⟩⟩

open Sample in
/-- The path of another service is kept where the host is shared, too. -/
theorem ingress_paths_kept_api : ∃ k after,
    run (reconciler.handle store (.added api)) (sharing "shared.ns1.example.com") = (.ok k, after) ∧
      after.LeadsTo api.home (some "shared.ns1.example.com") pathToWeb := by
  obtain ⟨k, after, -, hrun, -⟩ := exposed_api "shared.ns1.example.com"
  have hfirst := firstLeadsTo_sharing "shared.ns1.example.com"
  refine ⟨k, after, hrun, ?_⟩
  refine (ingress_paths_kept rfl hrun).1 _ _ _ hfirst.leadsTo fun _ _ => ?_
  exact ⟨⟨.inl rfl, isExposed_api⟩, .inr (.inr ⟨hfirst, congrArg some host_api.symm⟩)⟩

open Sample in
/-- Neither to withdraw nor to expose a service keeps the paths of another that stand under another
host, and those of a later rule are under no host any more. -/
theorem shared_paths_lost :
    (sharing "web.example.org").LeadsTo api.home (some "web.example.org") pathToWeb ∧
    pathToWeb.backend.service.map (·.name) = some "web" ∧ api.name ≠ "web" ∧
    (∃ k after, run (reconciler.handle store (.deleted api)) (sharing "web.example.org") =
      (.ok k, after) ∧
      ¬after.LeadsTo api.home (some "web.example.org") pathToWeb) ∧
    (sharing "web.example.org").LeadsTo api.home (some "docs.example.org") pathToDocs ∧
    pathToDocs.backend.service.map (·.name) = some "docs" ∧ api.name ≠ "docs" ∧
    ∃ k after, run (reconciler.handle store (.added api)) (sharing "web.example.org") =
      (.ok k, after) ∧
      ¬after.LeadsTo api.home (some "web.example.org") pathToWeb ∧
      ∀ host, ¬after.LeadsTo api.home host pathToDocs := by
  obtain ⟨k, withdrawn, hwithdrawn, hnone⟩ := withdrawn_api "web.example.org"
  obtain ⟨k', exposed, port, hexposed, hwritten⟩ := exposed_api "web.example.org"
  refine ⟨(firstLeadsTo_sharing _).leadsTo, rfl, by decide, ⟨k, withdrawn, hwithdrawn, ?_⟩,
    leadsTo_docs_sharing _, rfl, by decide, k', exposed, hexposed, ?_, fun host hleads => ?_⟩
  · rintro ⟨i, hi, -⟩
    rw [hnone] at hi
    cases hi
  · intro hleads
    have hhost := ((leadsTo_written_iff hwritten).1 hleads).1
    rw [host_api] at hhost
    exact absurd hhost (by decide)
  · rcases ((leadsTo_written_iff hwritten).1 hleads).2 with hpath | ⟨former, hfirst⟩
    · have hname : some "docs" = some api.name :=
        congrArg (fun p => p.backend.service.map (·.name)) hpath
      exact absurd hname (by decide)
    · exact not_firstLeadsTo_docs_sharing _ former hfirst

end ServiceExposure
