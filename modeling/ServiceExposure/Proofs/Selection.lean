import Mathlib.Data.Option.Basic
import ServiceExposure.Cluster
import ServiceExposure.Discovery
import ServiceExposure.Proofs.Cuts
import ServiceExposure.Proofs.Outcomes

/-! # Selection

A strategy that is selected fits the platform and knows an address, whichever of the many sources
the address comes from. Sources that are there but empty are passed over, so each of them leads to a
text that is not empty. -/

namespace ServiceExposure

variable {σ : Type}

/-! ## Addresses -/

/-- The text of what is looked for is not empty if those without a text do not count. -/
theorem ne_empty_of_find? {α : Type} {as : List α} {counts : α → Bool} {text : α → String}
    {found : String} (h : (as.find? fun a => counts a && text a ≠ "").map text = some found) :
    found ≠ "" := by
  obtain ⟨a, ha, rfl⟩ := Option.map_eq_some_iff.1 h
  have hfound := List.find?_some ha
  simp only [Bool.and_eq_true, decide_eq_true_eq] at hfound
  exact hfound.2

namespace Node

variable {n : Node} {ip : String}

theorem addressOf?_ne_empty {addressType : String} (h : n.addressOf? addressType = some ip) :
    ip ≠ "" :=
  ne_empty_of_find? h

theorem hostIP?_ne_empty (h : n.hostIP? = some ip) : ip ≠ "" := by
  rcases (Option.orElse_eq_some ..).1 h with h | ⟨-, h⟩
  · exact addressOf?_ne_empty h
  · exact addressOf?_ne_empty h

theorem providedIP?_ne_empty (h : n.providedIP? = some ip) : ip ≠ "" :=
  ne_empty_of_find? h

theorem externalIP_ne_empty (h : n.externalIP = .ok ip) : ip ≠ "" := by
  unfold externalIP at h
  split at h
  · next address haddress =>
    cases h
    rcases (Option.orElse_eq_some ..).1 haddress with hprovided | ⟨-, hreported⟩
    · exact providedIP?_ne_empty hprovided
    · exact hostIP?_ne_empty hreported
  · cases h

end Node

theorem soleNodeIP_ne_empty {nodes : List Node} {ip : String} (h : soleNodeIP nodes = .ok ip) :
    ip ≠ "" := by
  unfold soleNodeIP at h
  split at h
  · next node =>
    split at h
    · next address haddress =>
      cases h
      rcases (Option.orElse_eq_some ..).1 haddress with hannotation | ⟨-, hreported⟩
      · exact (nonEmpty?_eq_some_iff.1 hannotation).2
      · exact Node.hostIP?_ne_empty hreported
    · cases h
  · cases h

/-! ## Domains -/

theorem wildcardDomain_ne_empty (ip : String) : wildcardDomain ip ≠ "" := by
  simp [wildcardDomain]

variable (c : Config) (store : Store (StateM σ))

theorem gives_discoverDomain :
    (discoverDomain store).Gives fun domain => ∃ ip, ip ≠ "" ∧ domain = wildcardDomain ip := by
  refine .bind (.trivial _) fun nodes _ => ?_
  split
  · exact .map (Attempt.gives_ofExcept fun ip hip => ⟨ip, Node.externalIP_ne_empty hip, rfl⟩)
  · refine .bind (.trivial _) fun answer _ => ?_
    split
    · split
      · next ip hip => exact Attempt.gives_pure ⟨ip, (nonEmpty?_eq_some_iff.1 hip).2, rfl⟩
      · exact Attempt.gives_fail _
    · exact Attempt.gives_fail _

theorem Config.gives_resolveDomain : (c.resolveDomain store).Gives (· ≠ "") := by
  unfold resolveDomain
  split
  · next hconfigured => exact Attempt.gives_pure (nonEmpty?_eq_some_iff.1 hconfigured).2
  · refine .within (.imp (gives_discoverDomain store) ?_) _
    rintro domain ⟨ip, -, rfl⟩
    exact wildcardDomain_ne_empty ip

/-! ## Usable strategies -/

/-- Whether a strategy fits a cluster whose API serves the paths, and knows an address to expose
services at. -/
def Strategy.Usable (paths : List String) : Strategy → Prop
  | .ingress st => Platform.openShiftPath ∉ paths ∧ st.domain ≠ ""
  | .nodePort ip => ip ≠ ""
  | .loadBalancer => True
  | .route st => Platform.openShiftPath ∈ paths ∧
      (st.domain ≠ "" ∨ st.usePath ∧ ∃ host, st.routeHost = some host ∧ host ≠ "")

namespace Platform

variable {paths : List String}

theorem supports_ingress_iff : (ofApiPaths paths).supports .ingress ↔ openShiftPath ∉ paths := by
  rw [ofApiPaths]
  split <;> simp_all [supports]

theorem supports_route_iff : (ofApiPaths paths).supports .route ↔ openShiftPath ∈ paths := by
  rw [ofApiPaths]
  split <;> simp_all [supports]

end Platform

namespace Strategy

theorem gives_resolveNodePort {paths : List String} (configured : Option String) :
    (resolveNodePort (nonEmpty? configured) store).Gives (Usable paths) := by
  unfold resolveNodePort
  split
  · next hconfigured => exact Attempt.gives_pure (nonEmpty?_eq_some_iff.1 hconfigured).2
  · exact .bind (.trivial _) fun nodes _ =>
      .map (Attempt.gives_ofExcept fun ip hip => soleNodeIP_ne_empty hip)

variable {c} {domain : String}

theorem domain_of_ingressOfConfig {st : IngressStrategy}
    (h : IngressStrategy.ofConfig c domain = .ok st) :
    st.domain = domain := by
  rw [IngressStrategy.ofConfig] at h
  cases htemplate : c.template <;> rw [htemplate] at h <;> cases h
  rfl

theorem place_of_routeOfConfig {st : RouteStrategy} (h : RouteStrategy.ofConfig c domain = .ok st) :
    st.domain = domain ∧ st.usePath = c.routeUsePath ∧ st.routeHost = nonEmpty? c.routeHost := by
  rw [RouteStrategy.ofConfig] at h
  cases htemplate : c.template <;> rw [htemplate] at h <;> cases h
  exact ⟨rfl, rfl, rfl⟩

variable (c)

/-- Whatever is selected once the platform is known can be used on it. -/
theorem exists_select_eq : ∃ next : Platform → Attempt (StateM σ) Strategy,
    select c store = Platform.detect store >>= next ∧
    ∀ paths, (next (.ofApiPaths paths)).Gives (Usable paths) := by
  refine ⟨_, rfl, fun paths => .bind (.trivial _) fun exposer _ => ?_⟩
  split
  · exact Attempt.gives_fail _
  · next hunsupported =>
    have hsupported : (Platform.ofApiPaths paths).supports exposer := by simpa using hunsupported
    cases exposer with
    | ingress =>
      refine .bind (c.gives_resolveDomain store) fun domain hdomain =>
        .map (Attempt.gives_ofExcept fun st hst => ?_)
      exact ⟨Platform.supports_ingress_iff.1 hsupported, domain_of_ingressOfConfig hst ▸ hdomain⟩
    | nodePort => exact (gives_resolveNodePort store c.nodeIP).within _
    | loadBalancer => exact Attempt.gives_pure True.intro
    | route =>
      dsimp only
      split
      · next hhost =>
        obtain ⟨hpath, hhost⟩ := Bool.and_eq_true_iff.1 hhost
        obtain ⟨host, hhost⟩ := Option.isSome_iff_exists.1 hhost
        refine .bind (.trivial _) fun domain _ => .map (Attempt.gives_ofExcept fun st hst => ?_)
        obtain ⟨-, hst, hst'⟩ := place_of_routeOfConfig hst
        exact ⟨Platform.supports_route_iff.1 hsupported,
          .inr ⟨hst.trans hpath, host, hst'.trans hhost, (nonEmpty?_eq_some_iff.1 hhost).2⟩⟩
      · refine .bind (c.gives_resolveDomain store) fun domain hdomain =>
          .map (Attempt.gives_ofExcept fun st hst => ?_)
        exact ⟨Platform.supports_route_iff.1 hsupported,
          .inl ((place_of_routeOfConfig hst).1 ▸ hdomain)⟩

end Strategy

/-- A strategy that is selected can be used on the platform that the cluster tells of itself. -/
theorem selected_usable {st : Strategy} {before after : σ}
    (h : (Strategy.select c store).outcome before = (.ok st, after)) :
    ∃ paths between, store.apiPaths.outcome before = (.ok paths, between) ∧ st.Usable paths := by
  obtain ⟨next, hselect, hnext⟩ := Strategy.exists_select_eq c store
  rw [hselect] at h
  obtain ⟨platform, between, hplatform, h⟩ := Attempt.outcome_bind_eq_ok_iff.1 h
  obtain ⟨paths, between', hpaths, hdetected⟩ := Attempt.outcome_bind_eq_ok_iff.1 hplatform
  cases hdetected
  exact ⟨paths, between, Attempt.outcome_within_eq_ok_iff.1 hpaths, hnext paths h⟩

/-- A cluster whose only node is annotated with an empty address, and reports an empty one before
one that is not. -/
def clusterOfEmptyAddresses : Cluster where
  apiPaths := ["/api", "/oapi"]
  failing := [Call.readPod.name]
  nodes := .ofList [(⟨"", "worker"⟩, {
    metadata :=
      { name := some "worker", annotations := some (.ofList [( Annotation.externalIP, "")]) }
    status := some { addresses := some [⟨"ExternalIP", ""⟩, ⟨"InternalIP", "10.0.0.2"⟩] } })]

theorem selected_usable_empty_addresses :
    (Strategy.select { exposer := some "NodePort" } Cluster.store).outcome clusterOfEmptyAddresses =
        (.ok (.nodePort "10.0.0.2"), clusterOfEmptyAddresses) ∧
      ∃ paths between, Cluster.store.apiPaths.outcome clusterOfEmptyAddresses =
        (.ok paths, between) ∧
        Strategy.Usable paths (.nodePort "10.0.0.2") :=
  have hselect :
      (Strategy.select { exposer := some "NodePort" } Cluster.store).outcome
        clusterOfEmptyAddresses =
      (.ok (.nodePort "10.0.0.2"), clusterOfEmptyAddresses) := rfl
  ⟨hselect, selected_usable _ _ hselect⟩

end ServiceExposure
