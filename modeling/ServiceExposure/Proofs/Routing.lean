import ServiceExposure.Proofs.Settling

/-! # Routing objects settle

The writes that a strategy decides on for its routing object have an effect on that object alone,
and once they are made it decides on none. -/

namespace ServiceExposure

/-! ## Marks -/

namespace Dict

variable {κ α : Type} [DecidableEq κ] [KeyOrder κ]

theorem contains_insertIfAbsent (d : Dict κ α) (key : κ) (value : α) :
    (d.insertIfAbsent key value).contains key = true := by
  rw [insertIfAbsent]
  split
  · next h => exact h
  · simp [contains]

theorem insertIfAbsent_again (d : Dict κ α) (key : κ) (value : α) :
    (d.insertIfAbsent key value).insertIfAbsent key value = d.insertIfAbsent key value := by
  rw [insertIfAbsent, if_pos (d.contains_insertIfAbsent key value)]

end Dict

theorem Metadata.markedFor_again (m : Metadata) (s : Service) :
    (m.markedFor s).markedFor s = m.markedFor s := by
  have howner :
      ((m.markedFor s).ownerReferences.getD []).any (·.uid = s.metadata.uid.getD "") = true := by
    simp only [markedFor, Option.getD_some]
    split
    · next h => exact h
    · simp
  rw [markedFor, if_pos howner]
  simp only [markedFor, Option.getD_some, Dict.insertIfAbsent_again]

@[simp] theorem Metadata.key_markedFor (m : Metadata) (s : Service) : (m.markedFor s).key = m.key :=
  rfl

/-! ## Ingresses -/

namespace IngressStrategy

theorem nonEmpty?_path_place (st : IngressStrategy) (s : Service) :
    nonEmpty? (st.place s).path = (st.place s).path := by
  simp only [place]
  split
  · simp [nonEmpty?, Option.filter, Address.join_ne_empty]
  · simp [Service.setting?, nonEmpty?]

theorem key_ingressFor (st : IngressStrategy) (s : Service) (existing : Option Ingress)
    (port : Int32) (h : ∀ i ∈ existing, i.metadata.key = ⟨s.key.inNamespace, s.appName⟩) :
    (st.ingressFor s existing port).metadata.key = ⟨s.key.inNamespace, s.appName⟩ := by
  cases existing with
  | none => rfl
  | some i => exact h i rfl

/-- An ingress that was made for a service has it bound to its path. -/
theorem isBound_ingressFor (st : IngressStrategy) (s : Service) (existing : Option Ingress)
    (port : Int32) :
    (boundPaths (some (st.ingressFor s existing port))).any (isBound s.name (st.place s).path) =
      true := by
  simp [boundPaths, ingressFor, Ingress.rules, IngressRule.paths, pathFor, isBound,
    nonEmpty?_path_place]

/-- What is written for a service: nothing if it is bound to its path, else its ingress. -/
theorem routingWrites_eq_ok {st : IngressStrategy} {s : Service} {snapshot : Snapshot}
    {ws : List Write} (h : st.routingWrites s snapshot = .ok ws) :
    let existing := snapshot.ingresses.get? s.appName
    let isPlaced := (boundPaths existing).any (isBound s.name (st.place s).path) = true
    (isPlaced ∧ ws = []) ∨ ¬isPlaced ∧ ∃ port, s.exposedPort = .ok port ∧
      ws = [if existing.isSome then .replaceIngress (st.ingressFor s existing port)
        else .createIngress (st.ingressFor s existing port)] := by
  rw [routingWrites] at h
  split at h
  · next hplaced => exact .inl ⟨hplaced, (Except.ok.inj h).symm⟩
  · next hplaced =>
    cases hport : s.exposedPort with
    | error failure => simp [hport, bind, Except.bind] at h
    | ok port =>
      simp only [hport, bind, Except.bind, pure, Except.pure, Except.ok.injEq] at h
      exact .inr ⟨hplaced, port, rfl, h.symm⟩

end IngressStrategy

/-! ## Routes -/

namespace RouteStrategy

theorem key_routeFor (st : RouteStrategy) (s : Service) (existing : Option Route) (port : Int32)
    (h : ∀ r ∈ existing, r.metadata.key = ⟨s.key.inNamespace, s.appName⟩) :
    (st.routeFor s existing port).metadata.key = ⟨s.key.inNamespace, s.appName⟩ := by
  cases existing with
  | none => rfl
  | some r => exact h r rfl

theorem routing_eq_ok_iff {st : RouteStrategy} {s : Service} {snapshot : Snapshot}
    {ws : List Write} :
    (Strategy.route st).routing s snapshot = .ok ws ↔ ∃ port, s.exposedPort = .ok port ∧
      routingWrites (snapshot.routes.get? s.appName)
        (st.routeFor s (snapshot.routes.get? s.appName) port) = ws := by
  rw [Strategy.routing]
  cases s.exposedPort <;> simp [bind, Except.bind, pure, Except.pure]

theorem routeFor_again (st : RouteStrategy) (s : Service) (existing : Option Route) (port : Int32) :
    st.routeFor s (some (st.routeFor s existing port)) port = st.routeFor s existing port := by
  simp only [routeFor, Option.map_some, Option.getD_some, Metadata.markedFor_again]

end RouteStrategy

/-! ## After the writes -/

/-- Where the routing object of a service lies. -/
def Service.home (s : Service) : ObjectKey := ⟨s.key.inNamespace, s.appName⟩

/-- Whether the first rule of the ingress for a service has the service on its path. -/
def IngressStrategy.IsPlaced (st : IngressStrategy) (s : Service) (c : Cluster) : Prop :=
  (boundPaths (c.ingresses.get? s.home)).any (isBound s.name (st.place s).path)

namespace Cluster

/-- Whether two clusters differ in their routing objects only. -/
def SameButRouting (c after : Cluster) : Prop :=
  after = { c with ingresses := after.ingresses, routes := after.routes }

namespace SameButRouting

variable {c after : Cluster} (h : c.SameButRouting after)
include h

theorem services : after.services = c.services := by
  rw [SameButRouting] at h
  rw [h]

theorem configMaps : after.configMaps = c.configMaps := by
  rw [SameButRouting] at h
  rw [h]

theorem deployments : after.deployments = c.deployments := by
  rw [SameButRouting] at h
  rw [h]

end SameButRouting

def putIngress (c : Cluster) (i : Ingress) : Cluster := { c with ingresses := c.ingresses.put i }

def putRoute (c : Cluster) (r : Route) : Cluster := { c with routes := c.routes.put r }

theorem get?_ingresses (c : Cluster) (st : IngressStrategy) (ns name : String) :
    (c.snapshot (.ingress st) ns).ingresses.get? name = c.ingresses.get? ⟨ns, name⟩ := by
  simp [snapshot, Strategy.exposer, Shelf.get?_byName]

theorem get?_routes (c : Cluster) (st : RouteStrategy) (ns name : String) :
    (c.snapshot (.route st) ns).routes.get? name = c.routes.get? ⟨ns, name⟩ := by
  simp [snapshot, Strategy.exposer, Shelf.get?_byName]

/-- The ingress that is made for a service belongs at its home. -/
theorem key_ingressFor (c : Cluster) (st : IngressStrategy) (s : Service) (port : Int32) :
    Resource.key (st.ingressFor s (c.ingresses.get? s.home) port) = s.home :=
  st.key_ingressFor s _ port fun _ hi => Shelf.key_of_get? hi

/-- The route that is made for a service belongs at its home. -/
theorem key_routeFor (c : Cluster) (st : RouteStrategy) (s : Service) (port : Int32) :
    Resource.key (st.routeFor s (c.routes.get? s.home) port) = s.home :=
  st.key_routeFor s _ port fun _ hr => Shelf.key_of_get? hr

theorem get?_home_putIngress (c : Cluster) (st : IngressStrategy) (s : Service) (port : Int32) :
    (c.putIngress (st.ingressFor s (c.ingresses.get? s.home) port)).ingresses.get? s.home =
      some (st.ingressFor s (c.ingresses.get? s.home) port) :=
  Shelf.get?_put_of_eq _ (c.key_ingressFor st s port)

theorem get?_home_putRoute (c : Cluster) (st : RouteStrategy) (s : Service) (port : Int32) :
    (c.putRoute (st.routeFor s (c.routes.get? s.home) port)).routes.get? s.home =
      some (st.routeFor s (c.routes.get? s.home) port) :=
  Shelf.get?_put_of_eq _ (c.key_routeFor st s port)

end Cluster

namespace Strategy

open Cluster

/-- A path that is bound already is not written again; another is put in front of those of the first
rule. -/
theorem effects_ingress_routing {st : IngressStrategy} {s : Service} {c : Cluster} {ws : List Write}
    (h : st.routingWrites s (c.snapshot (.ingress st) s.key.inNamespace) = .ok ws) :
    (st.IsPlaced s c ∧ ws = []) ∨ ¬st.IsPlaced s c ∧ ∃ port, s.exposedPort = .ok port ∧
      c.effects ws = .ok (c.putIngress (st.ingressFor s (c.ingresses.get? s.home) port)) := by
  have hget := c.get?_ingresses st s.key.inNamespace s.appName
  rcases IngressStrategy.routingWrites_eq_ok h with ⟨hbound, rfl⟩ | ⟨hbound, port, hport, rfl⟩
  · rw [hget] at hbound
    exact .inl ⟨hbound, rfl⟩
  · rw [hget] at hbound
    refine .inr ⟨hbound, port, hport, ?_⟩
    rw [hget, ← Service.home]
    have hkey := c.key_ingressFor st s port
    cases hexisting : c.ingresses.get? s.home with
    | none =>
      rw [hexisting] at hkey
      have hcreated := createIngress_eq_ok_iff.2 ⟨hkey ▸ hexisting, rfl⟩
      exact effects_cons_eq_ok_iff.2 ⟨_, hcreated, rfl⟩
    | some i => rfl

theorem ingress_routing_settles {st : IngressStrategy} {s : Service} {c : Cluster} {ws : List Write}
    (h : st.routingWrites s (c.snapshot (.ingress st) s.key.inNamespace) = .ok ws) :
    ∃ after, c.effects ws = .ok after ∧ c.SameButRouting after ∧
      st.routingWrites s (after.snapshot (.ingress st) s.key.inNamespace) = .ok [] := by
  -- what was written has the service on its path, in the first rule
  rcases effects_ingress_routing h with ⟨-, rfl⟩ | ⟨-, port, -, heffects⟩
  · exact ⟨c, rfl, rfl, h⟩
  · refine ⟨_, heffects, rfl, ?_⟩
    have hget : (c.putIngress (st.ingressFor s (c.ingresses.get? s.home) port)).ingresses.get?
        ⟨s.key.inNamespace, s.appName⟩ = some (st.ingressFor s (c.ingresses.get? s.home) port) :=
      c.get?_home_putIngress st s port
    simp only [IngressStrategy.routingWrites, get?_ingresses, hget,
      st.isBound_ingressFor s (c.ingresses.get? s.home) port, if_true]

/-- A route is written unless it is as it is to be. -/
theorem effects_route_routing {st : RouteStrategy} {s : Service} {c : Cluster} {ws : List Write}
    (h : (Strategy.route st).routing s (c.snapshot (.route st) s.key.inNamespace) = .ok ws) :
    ∃ port, s.exposedPort = .ok port ∧
      c.effects ws = .ok (c.putRoute (st.routeFor s (c.routes.get? s.home) port)) := by
  obtain ⟨port, hport, rfl⟩ := RouteStrategy.routing_eq_ok_iff.1 h
  refine ⟨port, hport, ?_⟩
  rw [get?_routes, Service.home]
  generalize hexisting : c.routes.get? ⟨s.key.inNamespace, s.appName⟩ = existing
  cases existing with
  | none => rfl
  | some stored =>
    have hkey : Resource.key stored = ⟨s.key.inNamespace, s.appName⟩ := Shelf.key_of_get? hexisting
    rw [RouteStrategy.routingWrites]
    split
    · next hsame =>
      rw [← hsame, putRoute, Shelf.put_of_get? (hkey ▸ hexisting)]
      rfl
    · rfl

theorem route_routing_settles {st : RouteStrategy} {s : Service} {c : Cluster} {ws : List Write}
    (h : (Strategy.route st).routing s (c.snapshot (.route st) s.key.inNamespace) = .ok ws) :
    ∃ after, c.effects ws = .ok after ∧ c.SameButRouting after ∧
      (Strategy.route st).routing s (after.snapshot (.route st) s.key.inNamespace) = .ok [] := by
  obtain ⟨port, hport, heffects⟩ := effects_route_routing h
  refine ⟨_, heffects, rfl, RouteStrategy.routing_eq_ok_iff.2 ⟨port, hport, ?_⟩⟩
  have hget :
      (c.putRoute (st.routeFor s (c.routes.get? s.home) port)).routes.get?
        ⟨s.key.inNamespace, s.appName⟩ =
      some (st.routeFor s (c.routes.get? s.home) port) := c.get?_home_putRoute st s port
  rw [get?_routes, hget, st.routeFor_again]
  exact if_pos rfl

theorem nodePort_routing_eq_nil {nodeIP : String} {s : Service} {snapshot : Snapshot}
    {ws : List Write} (h : (nodePort nodeIP).routing s snapshot = .ok ws) : ws = [] := by
  simp only [routing] at h
  split at h <;> simp_all

/-- Once the writes for the routing object are made, no more are called for. -/
theorem routing_settles {st : Strategy} {s : Service} {c : Cluster} {ws : List Write}
    (h : st.routing s (c.snapshot st s.key.inNamespace) = .ok ws) :
    ∃ after, c.effects ws = .ok after ∧ c.SameButRouting after ∧
      st.routing s (after.snapshot st s.key.inNamespace) = .ok [] := by
  cases st with
  | ingress st => exact ingress_routing_settles h
  | nodePort nodeIP =>
    obtain rfl := nodePort_routing_eq_nil h
    exact ⟨c, rfl, rfl, h⟩
  | loadBalancer =>
    obtain rfl : [] = ws := Except.ok.inj h
    exact ⟨c, rfl, rfl, h⟩
  | route st => exact route_routing_settles h

/-- The kind of object that a strategy routes with, if it does. -/
def routingKind? : Strategy → Option ObjectKind
  | ingress _ => some .ingress
  | nodePort _ | loadBalancer => none
  | route _ => some .route

theorem routingKind?_ne_service (st : Strategy) :
    st.routingKind? ≠ some .service := by cases st <;> simp [routingKind?]

/-- Whatever is written for routing is of the kind that the strategy routes with. -/
theorem kind_routing {st : Strategy} {s : Service} {snapshot : Snapshot} {ws : List Write}
    (h : st.routing s snapshot = .ok ws) : ∀ w ∈ ws, st.routingKind? = some w.kind := by
  intro w hw
  cases st with
  | ingress st =>
    rcases IngressStrategy.routingWrites_eq_ok h with ⟨-, rfl⟩ | ⟨-, port, -, rfl⟩
    · exact absurd hw List.not_mem_nil
    · rw [List.mem_singleton.1 hw]
      split <;> rfl
  | nodePort nodeIP => exact absurd (nodePort_routing_eq_nil h ▸ hw) List.not_mem_nil
  | loadBalancer => exact absurd (Except.ok.inj h ▸ hw) List.not_mem_nil
  | route st =>
    obtain ⟨port, -, rfl⟩ := RouteStrategy.routing_eq_ok_iff.1 h
    simp only [RouteStrategy.routingWrites.eq_def] at hw
    split at hw
    · exact List.mem_singleton.1 hw ▸ rfl
    · split at hw
      · exact absurd hw List.not_mem_nil
      · exact List.mem_singleton.1 hw ▸ rfl

/-- A strategy reads the routing objects that have the application name of the service. -/
theorem routing_eq_of_get? (st : Strategy) (s : Service) {a b : Snapshot}
    (hingress : a.ingresses.get? s.appName = b.ingresses.get? s.appName)
    (hroute : a.routes.get? s.appName = b.routes.get? s.appName) :
    st.routing s a = st.routing s b := by
  cases st <;> simp only [routing, IngressStrategy.routingWrites, hingress, hroute]

/-- What routing objects a strategy reads. -/
theorem routing_congr (st : Strategy) (s : Service) {a b : Snapshot}
    (hingresses : a.ingresses = b.ingresses) (hroutes : a.routes = b.routes) :
    st.routing s a = st.routing s b :=
  st.routing_eq_of_get? s (by rw [hingresses]) (by rw [hroutes])

/-- The writes that take the routing object away. -/
def unrouting : Strategy → Service → Snapshot → List Write
  | ingress _, s, snapshot =>
    if snapshot.ingresses.contains s.appName then [.deleteIngress ⟨s.key.inNamespace, s.appName⟩]
    else []
  | nodePort _, _, _ | loadBalancer, _, _ => []
  | route _, s, snapshot =>
    if snapshot.routes.contains s.appName then [.deleteRoute ⟨s.key.inNamespace, s.appName⟩] else []

theorem unrouting_congr (st : Strategy) (s : Service) {a b : Snapshot}
    (hingresses : a.ingresses = b.ingresses) (hroutes : a.routes = b.routes) :
    st.unrouting s a = st.unrouting s b := by
  cases st <;> simp only [unrouting, hingresses, hroutes]

theorem kind_unrouting (st : Strategy) (s : Service) (snapshot : Snapshot) :
    ∀ w ∈ st.unrouting s snapshot, st.routingKind? = some w.kind := by
  intro w hw
  cases st with
  | ingress st =>
    simp only [unrouting] at hw
    split at hw
    · exact List.mem_singleton.1 hw ▸ rfl
    · exact absurd hw List.not_mem_nil
  | nodePort nodeIP => exact absurd hw List.not_mem_nil
  | loadBalancer => exact absurd hw List.not_mem_nil
  | route st =>
    simp only [unrouting] at hw
    split at hw
    · exact List.mem_singleton.1 hw ▸ rfl
    · exact absurd hw List.not_mem_nil

theorem remove_eq (st : Strategy) (s : Service) (snapshot : Snapshot) :
    st.remove s snapshot = .of s s.clearUrl (st.unrouting s snapshot) := by
  cases st <;> rfl

/-- Once the routing object is taken away, there is none to take away. -/
theorem unrouting_settles (st : Strategy) (s : Service) {c : Cluster} :
    ∃ after, c.effects (st.unrouting s (c.snapshot st s.key.inNamespace)) = .ok after ∧
      c.SameButRouting after ∧
      st.unrouting s (after.snapshot st s.key.inNamespace) = [] := by
  cases h : st.unrouting s (c.snapshot st s.key.inNamespace) with
  | nil => exact ⟨c, rfl, rfl, h⟩
  | cons w ws =>
    cases st with
    | ingress st =>
      simp only [unrouting] at h
      split at h <;> cases h
      refine ⟨c.drop .ingress ⟨s.key.inNamespace, s.appName⟩, rfl, rfl, ?_⟩
      have hgone :
          (c.drop .ingress ⟨s.key.inNamespace, s.appName⟩).ingresses.get?
            ⟨s.key.inNamespace, s.appName⟩ = none :=
        Shelf.get?_erase_self _ _
      simp [unrouting, Dict.contains, get?_ingresses, hgone]
    | nodePort nodeIP => cases h
    | loadBalancer => cases h
    | route st =>
      simp only [unrouting] at h
      split at h <;> cases h
      refine ⟨c.drop .route ⟨s.key.inNamespace, s.appName⟩, rfl, rfl, ?_⟩
      have hgone :
          (c.drop .route ⟨s.key.inNamespace, s.appName⟩).routes.get?
            ⟨s.key.inNamespace, s.appName⟩ = none :=
        Shelf.get?_erase_self _ _
      simp [unrouting, Dict.contains, get?_routes, hgone]

end Strategy

end ServiceExposure
