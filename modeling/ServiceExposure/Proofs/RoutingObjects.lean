import ServiceExposure.Proofs.Redelivery

/-! # What becomes of routing objects

A notification about a service bears on one key, which is made up of the namespace and the
application name of the service. What comes to lie there follows from what lay there and from the
service, and what lies elsewhere stays (`Cluster.revised_of_planAdd`, `Cluster.revised_of_plan`). -/

namespace ServiceExposure

/-! ## Shelves revised at a key -/

namespace Shelf

variable {α : Type} [Resource α] {key : ObjectKey} {f g : Option α → Option α}
  {shelf shelf' : Shelf α}

/-- Whether a shelf becomes another by what is made of the object of one key. -/
def Revised (key : ObjectKey) (f : Option α → Option α) (shelf shelf' : Shelf α) : Prop :=
  ∀ other, shelf'.get? other = if other = key then f (shelf.get? other) else shelf.get? other

namespace Revised

theorem refl (h : f (shelf.get? key) = shelf.get? key) : Revised key f shelf shelf := by
  intro other
  split
  · next heq => rw [heq, h]
  · rfl

theorem put {object : α} (hkey : Resource.key object = key) (h : f (shelf.get? key) = some object) :
    Revised key f shelf (shelf.put object) := by
  intro other
  split
  · next heq => rw [heq, h, shelf.get?_put_of_eq hkey]
  · next hne => exact shelf.get?_put_of_ne fun heq => hne (heq.symm.trans hkey)

theorem erase (h : f (shelf.get? key) = none) : Revised key f shelf (shelf.erase key) := by
  intro other
  split
  · next heq => rw [heq, h, Shelf.get?_erase_self]
  · next hne => exact shelf.get?_erase_of_ne (Ne.symm hne)

theorem get?_self (h : Revised key f shelf shelf') : shelf'.get? key = f (shelf.get? key) :=
  (h key).trans (if_pos rfl)

theorem get?_of_ne (h : Revised key f shelf shelf') {other : ObjectKey} (hne : other ≠ key) :
    shelf'.get? other = shelf.get? other :=
  (h other).trans (if_neg hne)

/-- Revisions at different keys can be made in either order. -/
theorem comm {key' : ObjectKey} (hne : key ≠ key') {first second first' second' : Shelf α}
    (h : Revised key f shelf first) (h' : Revised key' g first second)
    (k : Revised key' g shelf first') (k' : Revised key f first' second') : second = second' := by
  refine ext_get? fun other => ?_
  by_cases hkey : other = key
  · subst hkey
    rw [h'.get?_of_ne hne, h.get?_self, k'.get?_self, k.get?_of_ne hne]
  · by_cases hkey' : other = key'
    · subst hkey'
      rw [h'.get?_self, h.get?_of_ne hkey, k'.get?_of_ne hkey, k.get?_self]
    · rw [h'.get?_of_ne hkey', h.get?_of_ne hkey, k'.get?_of_ne hkey, k.get?_of_ne hkey']

end Revised

end Shelf

/-! ## Exposing -/

namespace Service

theorem exposedPort_eq_ok_iff {s : Service} :
    (∃ port, s.exposedPort = .ok port) ↔ s.ports ≠ [] := by
  rw [exposedPort]
  cases s.ports with
  | nil => simp
  | cons first rest =>
    refine iff_of_true ?_ (List.cons_ne_nil _ _)
    cases (s.setting? Annotation.exposePort).bind int32OfText? <;> exact ⟨_, rfl⟩

end Service

namespace Strategy

/-- What exposing a service makes of the ingress at its home. -/
def ingressAfter (st : Strategy) (s : Service) (existing : Option Ingress) : Option Ingress :=
  match st with
  | ingress st =>
    if (IngressStrategy.boundPaths existing).any
        (IngressStrategy.isBound s.name (st.place s).path) then
      existing
    else
      match s.exposedPort with
      | .ok port => some (st.ingressFor s existing port)
      | .error _ => existing
  | nodePort _ | loadBalancer | route _ => existing

/-- What exposing a service makes of the route at its home. -/
def routeAfter (st : Strategy) (s : Service) (existing : Option Route) : Option Route :=
  match st, s.exposedPort with
  | route st, .ok port => some (st.routeFor s existing port)
  | _, _ => existing

theorem isSome_ingressAfter {st : Strategy} {s : Service} {existing : Option Ingress} :
    (st.ingressAfter s existing).isSome ↔
      existing.isSome ∨ st.routingKind? = some .ingress ∧ s.ports ≠ [] := by
  cases st with
  | nodePort nodeIP | loadBalancer | route st => simp [ingressAfter, routingKind?]
  | ingress st =>
    simp only [ingressAfter, routingKind?, true_and, ← Service.exposedPort_eq_ok_iff]
    split
    · next hbound =>
      -- there are no paths without an ingress
      cases existing with
      | none => cases hbound
      | some i => simp
    · cases s.exposedPort <;> simp

theorem isSome_routeAfter {st : Strategy} {s : Service} {existing : Option Route} :
    (st.routeAfter s existing).isSome ↔
    existing.isSome ∨ st.routingKind? = some .route ∧ s.ports ≠ [] := by
  cases st with
  | nodePort nodeIP | loadBalancer | ingress st => simp [routeAfter, routingKind?]
  | route st =>
    simp only [routingKind?, true_and, ← Service.exposedPort_eq_ok_iff, routeAfter]
    cases s.exposedPort <;> simp

theorem ports_of_routingWrites_error {st : IngressStrategy} {s : Service} {snapshot : Snapshot}
    {failure : Failure} (h : st.routingWrites s snapshot = .error failure) : s.ports = [] := by
  simp only [IngressStrategy.routingWrites, Service.exposedPort] at h
  split at h
  · cases h
  · split at h
    · assumption
    · split at h <;> cases h

variable {st : Strategy} {s : Service} {c after : Cluster}

/-- The writes for the routing object revise it, and nothing else. -/
theorem revised_routed
    (h : c.effects (st.routed s (c.snapshot st s.key.inNamespace)) = .ok after) :
    Shelf.Revised s.home (st.ingressAfter s) c.ingresses after.ingresses ∧
      Shelf.Revised s.home (st.routeAfter s) c.routes after.routes := by
  rw [routed] at h
  cases st with
  | nodePort nodeIP =>
    obtain rfl : c = after := by
      split at h
      · next ws hws => exact Except.ok.inj (nodePort_routing_eq_nil hws ▸ h)
      · exact Except.ok.inj h
    exact ⟨.refl rfl, .refl rfl⟩
  | loadBalancer =>
    obtain rfl : c = after := Except.ok.inj h
    exact ⟨.refl rfl, .refl rfl⟩
  | ingress st =>
    split at h
    · next ws hws =>
      rcases effects_ingress_routing hws with ⟨hplaced, rfl⟩ | ⟨hplaced, port, hport, heffects⟩
      · obtain rfl := Except.ok.inj h
        exact ⟨.refl (if_pos hplaced), .refl rfl⟩
      · obtain rfl := Except.ok.inj (heffects.symm.trans h)
        have hkey : Resource.key (st.ingressFor s (c.ingresses.get? s.home) port) = s.home :=
          c.key_ingressFor st s port
        refine ⟨.put hkey ((if_neg hplaced).trans ?_), .refl rfl⟩
        rw [hport]
    · next failure hfailed =>
      obtain rfl := Except.ok.inj h
      refine ⟨.refl ?_, .refl rfl⟩
      have hports : s.ports = [] := ports_of_routingWrites_error hfailed
      simp only [ingressAfter, Service.exposedPort, hports, ite_self]
  | route st =>
    split at h
    · next ws hws =>
      obtain ⟨port, hport, heffects⟩ := effects_route_routing hws
      obtain rfl := Except.ok.inj (heffects.symm.trans h)
      have hkey : Resource.key (st.routeFor s (c.routes.get? s.home) port) = s.home :=
        c.key_routeFor st s port
      refine ⟨.refl rfl, .put hkey ?_⟩
      simp only [routeAfter, hport]
    · next failure hfailed =>
      obtain rfl := Except.ok.inj h
      refine ⟨.refl rfl, .refl ?_⟩
      simp only [routeAfter]
      cases hport : s.exposedPort with
      | error failure => rfl
      | ok port => simp [routing, hport, bind, Except.bind, pure, Except.pure] at hfailed

/-! ## Withdrawing -/

/-- What withdrawing a service makes of the ingress at its home. -/
def ingressWithout (st : Strategy) (existing : Option Ingress) : Option Ingress :=
  if st.routingKind? = some .ingress then none else existing

def routeWithout (st : Strategy) (existing : Option Route) : Option Route :=
  if st.routingKind? = some .route then none else existing

theorem isSome_ingressWithout {st : Strategy} {existing : Option Ingress} :
    (st.ingressWithout existing).isSome ↔ existing.isSome ∧ st.routingKind? ≠ some .ingress := by
  rw [ingressWithout]
  split <;> simp_all

theorem isSome_routeWithout {st : Strategy} {existing : Option Route} :
    (st.routeWithout existing).isSome ↔ existing.isSome ∧ st.routingKind? ≠ some .route := by
  rw [routeWithout]
  split <;> simp_all

/-- The writes that take the routing object away take away nothing else. -/
theorem revised_unrouting
    (h : c.effects (st.unrouting s (c.snapshot st s.key.inNamespace)) = .ok after) :
    Shelf.Revised s.home st.ingressWithout c.ingresses after.ingresses ∧
      Shelf.Revised s.home st.routeWithout c.routes after.routes := by
  cases st with
  | nodePort nodeIP | loadBalancer =>
    obtain rfl : c = after := Except.ok.inj h
    exact ⟨.refl rfl, .refl rfl⟩
  | ingress st =>
    simp only [unrouting, Dict.contains, c.get?_ingresses] at h
    split at h
    · cases h
      exact ⟨.erase rfl, .refl rfl⟩
    · next hnone =>
      cases h
      exact ⟨.refl (Option.not_isSome_iff_eq_none.1 hnone).symm, .refl rfl⟩
  | route st =>
    simp only [unrouting, Dict.contains, c.get?_routes] at h
    split at h
    · cases h
      exact ⟨.refl rfl, .erase rfl⟩
    · next hnone =>
      cases h
      exact ⟨.refl rfl, .refl (Option.not_isSome_iff_eq_none.1 hnone).symm⟩

end Strategy

/-! ## Plans -/

namespace Cluster

variable {r : Reconciler} {s : Service} {n : Notification} {c after : Cluster}

/-- What is planned for a service that is exposed revises its routing object, and no other. -/
theorem revised_of_planAdd
    (h : c.effects (r.planAdd s (c.snapshot r.strategy s.key.inNamespace)) = .ok after) :
    Shelf.Revised s.home (r.strategy.ingressAfter s) c.ingresses after.ingresses ∧
      Shelf.Revised s.home (r.strategy.routeAfter s) c.routes after.routes := by
  obtain ⟨t, routed, recorded, hstages, rfl⟩ := effects_planAdd h
  have hrevised := Strategy.revised_routed hstages.routing
  rw [← hstages.same_but_services.ingresses, ← hstages.same_but_services.routes] at hrevised
  exact hrevised

/-- What is planned for a service that is not exposed any more takes its routing object away. -/
theorem revised_of_plan (hwants : r.wants n) (hn : ¬n.Exposes n.service)
    (h : c.effects (r.plan n (c.snapshot r.strategy n.service.key.inNamespace)) = .ok after) :
    Shelf.Revised n.service.home r.strategy.ingressWithout c.ingresses after.ingresses ∧
      Shelf.Revised n.service.home r.strategy.routeWithout c.routes after.routes := by
  cases n with
  | added s =>
    -- a new service is acted on only if it is exposed
    refine absurd ⟨.inl rfl, ?_⟩ hn
    simp_all [Reconciler.wants, Notification.concernsExposed, Notification.service]
  | updated old new =>
    have hexposed : ¬new.isExposed := fun h => hn ⟨.inr ⟨old, rfl⟩, h⟩
    rw [Reconciler.plan_of_withdraws hwants hexposed, planRemove_eq] at h
    obtain ⟨unrouted, hunrouting, h⟩ := effects_append_eq_ok_iff.1 h
    rw [(patchWrites_settle h).1.ingresses, (patchWrites_settle h).1.routes]
    exact Strategy.revised_unrouting hunrouting
  | deleted s =>
    simp only [Reconciler.plan, hwants, if_true, filter_planRemove] at h
    exact Strategy.revised_unrouting h

end Cluster

end ServiceExposure
