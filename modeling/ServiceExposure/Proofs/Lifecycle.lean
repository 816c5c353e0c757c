import ServiceExposure.Proofs.Commutation
import ServiceExposure.Proofs.Withdrawal

/-! # What a service leaves behind

A routing object is made under the application name that the service has at the time, and is looked
for under the name that the service has when it is withdrawn. So a run of notifications leaves
routing objects under just those names that the service was exposed under and has not been withdrawn
under since (`Lifecycle.routesUnder`). -/

namespace ServiceExposure

/-! ## Names that are left -/

instance (n : Notification) : Decidable (n.Exposes n.service) :=
  match n with
  | .added s => decidable_of_iff (s.isExposed = true) ⟨fun h => ⟨.inl rfl, h⟩, And.right⟩
  | .updated old new =>
    decidable_of_iff (new.isExposed = true) ⟨fun h => ⟨.inr ⟨old, rfl⟩, h⟩, And.right⟩
  | .deleted _ => .isFalse fun h => by rcases h.1 with heq | ⟨old, heq⟩ <;> cases heq

namespace Reconciler

/-- The application names that have routing objects after a notification, by those that had some
before. -/
def left (r : Reconciler) (names : List String) (n : Notification) : List String :=
  if r.wants n then
    if n.Exposes n.service then
      -- a service without ports is not routed to
      if n.service.ports = [] then names else n.service.appName :: names
    else names.filter (· ≠ n.service.appName)
  else names

variable {r : Reconciler} {n : Notification} {names : List String} {name : String}

theorem mem_left_of_ne (h : name ≠ n.service.appName) : name ∈ r.left names n ↔ name ∈ names := by
  rw [left]
  split
  · split
    · split
      · exact Iff.rfl
      · exact List.mem_cons.trans (or_iff_right h)
    · simp [h]
  · exact Iff.rfl

theorem mem_left_of_exposes (hwants : r.wants n) (hn : n.Exposes n.service) :
    n.service.appName ∈ r.left names n ↔ n.service.appName ∈ names ∨ n.service.ports ≠ [] := by
  rw [left, if_pos hwants, if_pos hn]
  split
  · next hports => simp [hports]
  · next hports => simp [hports]

theorem not_mem_left_of_withdraws (hwants : r.wants n) (hn : ¬n.Exposes n.service) :
    n.service.appName ∉ r.left names n := by
  rw [left, if_pos hwants, if_neg hn]
  simp

/-- A name that is left is that of a service as it was exposed, or was left before. -/
theorem exists_of_mem_foldl_left {ns : List Notification} (h : name ∈ ns.foldl r.left names) :
    name ∈ names ∨ ∃ n ∈ ns, n.Exposes n.service ∧ n.service.appName = name := by
  induction ns generalizing names with
  | nil => exact .inl h
  | cons n ns ih =>
    rcases ih h with hleft | ⟨other, hother, hexposes⟩
    · by_cases hname : name = n.service.appName
      · by_cases hn : n.Exposes n.service
        · exact .inr ⟨n, List.mem_cons_self, hn, hname.symm⟩
        · refine .inl ?_
          rw [left, if_neg hn] at hleft
          split at hleft
          · exact (List.mem_filter.1 hleft).1
          · exact hleft
      · exact .inl ((mem_left_of_ne hname).1 hleft)
    · exact .inr ⟨other, List.mem_cons_of_mem _ hother, hexposes⟩

end Reconciler

/-! ## Routing objects of a namespace -/

/-- A shelf that has objects under just some names of a namespace, and is revised at one of its
names. -/
theorem Shelf.Revised.isSome_iff {α : Type} [Resource α] {shelf shelf' : Shelf α}
    {f : Option α → Option α} {ns app : String} {p : Prop} {names names' : List String}
    (h : Revised ⟨ns, app⟩ f shelf shelf')
    (hshelf : ∀ name, (shelf.get? ⟨ns, name⟩).isSome ↔ p ∧ name ∈ names)
    (hothers : ∀ name, name ≠ app → (name ∈ names' ↔ name ∈ names))
    (hself : (f (shelf.get? ⟨ns, app⟩)).isSome ↔ p ∧ app ∈ names') (name : String) :
    (shelf'.get? ⟨ns, name⟩).isSome ↔ p ∧ name ∈ names' := by
  by_cases hname : name = app
  · subst hname
    rw [h.get?_self, hself]
  · have hne : (⟨ns, name⟩ : ObjectKey) ≠ ⟨ns, app⟩ :=
      fun heq => hname (congrArg ObjectKey.name heq)
    rw [h.get?_of_ne hne, hshelf, hothers name hname]

namespace Cluster

/-- Whether the routing objects of a namespace are of the kind that the strategy routes with, and
have just these names. -/
structure RoutesUnder (c : Cluster) (st : Strategy) (ns : String) (names : List String) : Prop where
  ingress : ∀ name, (c.ingresses.get? ⟨ns, name⟩).isSome ↔
    st.routingKind? = some .ingress ∧ name ∈ names
  route : ∀ name, (c.routes.get? ⟨ns, name⟩).isSome ↔ st.routingKind? = some .route ∧ name ∈ names

/-- Whether the routing objects of a namespace are the same in two clusters. -/
structure SameRouting (ns : String) (c d : Cluster) : Prop where
  ingress : ∀ name, d.ingresses.get? ⟨ns, name⟩ = c.ingresses.get? ⟨ns, name⟩
  route : ∀ name, d.routes.get? ⟨ns, name⟩ = c.routes.get? ⟨ns, name⟩

/-- A cluster after others have stored a service. -/
def storing (c : Cluster) (s : Service) : Cluster :=
  { c with services := c.services.insert s.key s }

variable {r : Reconciler} {st : Strategy} {n : Notification} {s old : Service}
  {c d : Cluster} {ns : String}
  {names : List String}

theorem get?_services_storing (c : Cluster) (s : Service) :
    (c.storing s).services.get? s.key = some s :=
  Dict.get?_insert_self _ _ _

theorem sameRouting_storing (ns : String) (c : Cluster) (s : Service) :
    SameRouting ns c (c.storing s) :=
  ⟨fun _ => rfl, fun _ => rfl⟩

theorem failing_storing (c : Cluster) (s : Service) : (c.storing s).failing = c.failing := rfl

theorem RoutesUnder.of_none (st : Strategy)
    (h : ∀ name, c.ingresses.get? ⟨ns, name⟩ = none ∧ c.routes.get? ⟨ns, name⟩ = none) :
    c.RoutesUnder st ns [] where
  ingress name := by simp [(h name).1]
  route name := by simp [(h name).2]

theorem RoutesUnder.of_same (h : c.RoutesUnder st ns names) (hsame : SameRouting ns c d) :
    d.RoutesUnder st ns names where
  ingress name := by rw [hsame.ingress, h.ingress]
  route name := by rw [hsame.route, h.route]

theorem RoutesUnder.eq_none (h : c.RoutesUnder st ns names) {name : String} (hname : name ∉ names) :
    c.ingresses.get? ⟨ns, name⟩ = none ∧ c.routes.get? ⟨ns, name⟩ = none := by
  refine ⟨Option.not_isSome_iff_eq_none.1 fun hi => ?_,
    Option.not_isSome_iff_eq_none.1 fun hr => ?_⟩
  · exact hname ((h.ingress name).1 hi).2
  · exact hname ((h.route name).1 hr).2

/-- What handling a notification without a failure makes of the names that there are routing objects
under. -/
theorem RoutesUnder.handled (h : c.RoutesUnder r.strategy n.service.key.inNamespace names)
    (hn : c.Completes r n) :
    (c.handled r n).RoutesUnder r.strategy n.service.key.inNamespace (r.left names n) := by
  cases hwants : r.wants n with
  | false =>
    have hleft : r.left names n = names := by
      simp only [Reconciler.left, hwants, Bool.false_eq_true, if_false]
    rw [Cluster.handled, run_handle_of_not_wants hwants, hleft]
    exact h
  | true =>
    obtain ⟨last, log, heffects, hlast⟩ := effects_of_completes hwants hn
    rw [hlast]
    have hothers (name : String) (hne : name ≠ n.service.appName) :
        name ∈ r.left names n ↔ name ∈ names :=
      Reconciler.mem_left_of_ne hne
    -- all other names are settled by this, so what is left is to look at that of the service
    by_cases hexposes : n.Exposes n.service
    · obtain ⟨-, hallows, hplan⟩ :=
        r.plan_of_exposes hexposes (c.snapshot r.strategy n.service.key.inNamespace)
      rw [hplan (hallows.symm.trans hwants)] at heffects
      obtain ⟨hingresses, hroutes⟩ := revised_of_planAdd heffects
      have hself : n.service.appName ∈ r.left names n ↔
          n.service.appName ∈ names ∨ n.service.ports ≠ [] :=
        Reconciler.mem_left_of_exposes hwants hexposes
      refine ⟨hingresses.isSome_iff h.ingress hothers ?_, hroutes.isSome_iff h.route hothers ?_⟩
      · rw [Strategy.isSome_ingressAfter, h.ingress, hself, and_or_left]
      · rw [Strategy.isSome_routeAfter, h.route, hself, and_or_left]
    · obtain ⟨hingresses, hroutes⟩ := revised_of_plan hwants hexposes heffects
      have hself : n.service.appName ∉ r.left names n :=
        Reconciler.not_mem_left_of_withdraws hwants hexposes
      refine ⟨hingresses.isSome_iff h.ingress hothers ?_, hroutes.isSome_iff h.route hothers ?_⟩
      · rw [Strategy.isSome_ingressWithout, h.ingress]
        exact iff_of_false (fun hi => hi.2 hi.1.1) fun hi => hself hi.2
      · rw [Strategy.isSome_routeWithout, h.route]
        exact iff_of_false (fun hr => hr.2 hr.1.1) fun hr => hself hr.2

/-- A stored service that is withdrawn without a failure is stored without its record. -/
theorem get?_services_of_withdraws (hstored : c.services.get? s.key = some s)
    (hwants : r.wants (.updated old s)) (hs : ¬s.isExposed) (h : c.Completes r (.updated old s)) :
    (c.handled r (.updated old s)).services.get? s.key = some s.clearUrl := by
  obtain ⟨last, log, heffects, hlast⟩ := effects_of_completes hwants h
  obtain ⟨after, heffects', hservices, -⟩ := effects_planRemove r hstored
  rw [Reconciler.plan_of_withdraws hwants hs] at heffects
  obtain rfl : last = after := Except.ok.inj (heffects.symm.trans heffects')
  rw [hlast, hservices]
  exact Dict.get?_insert_self _ _ _

end Cluster

/-! ## Runs -/

open Cluster

/-- Notifications about one service that are handled one after the other without a failure. Before
each of them others may have changed anything but the routing objects of the namespace: the service,
above all. -/
inductive Lifecycle (r : Reconciler) (key : ObjectKey) (start : Cluster) :
    List Notification → Cluster → Prop where
  | start : Lifecycle r key start [] start
  | next {ns : List Notification} {n : Notification} {c found : Cluster}
      (before : Lifecycle r key start ns c)
      (same : SameRouting key.inNamespace c found) (about : n.service.key = key)
      (completes : found.Completes r n) : Lifecycle r key start (ns ++ [n]) (found.handled r n)

/-- A run of notifications leaves routing objects under the names that are left. -/
theorem Lifecycle.routesUnder {r : Reconciler} {key : ObjectKey} {start c : Cluster}
    {ns : List Notification} (h : Lifecycle r key start ns c)
    (hempty : start.RoutesUnder r.strategy key.inNamespace []) :
    c.RoutesUnder r.strategy key.inNamespace (ns.foldl r.left []) := by
  induction h with
  | start => exact hempty
  | next before same about completes ih =>
    subst about
    rw [List.foldl_append, List.foldl_cons, List.foldl_nil]
    exact (ih.of_same same).handled completes

namespace Sample

/-- The service as it is recorded once it has been exposed, without the label that asks for that. -/
def unlabelled : Service := { strategy.desired web with metadata.labels := none }

/-- The same, with another name for its ingress and without the name of an alias. -/
def renamed : Service :=
  unlabelled.withAnnotations <|
    (unlabelled.annotations.insert Annotation.ingressName "other").erase Annotation.exposeHostNameAs

/-- The cluster after the service was exposed. -/
def exposed : Cluster := cluster.handled reconciler (.added web)

theorem completes_added_web : cluster.Completes reconciler (.added web) :=
  completes_of_exposes rfl ⟨.inl rfl, isExposed_web⟩ get?_services_cluster

theorem failing_exposed : exposed.failing = [] :=
  (confined_handled reconciler (.added web)).apart.2.1

theorem lifecycle_web : Lifecycle reconciler web.key cluster [.added web] exposed :=
  .next .start ⟨fun _ => rfl, fun _ => rfl⟩ rfl completes_added_web

theorem get?_services_exposed : exposed.services.get? web.key = some (strategy.desired web) := by
  have hports : web.ports ≠ [] := List.cons_ne_nil _ _
  have hwants : reconciler.wants (.added web) := isExposed_web
  have hservices := (exposed_handled get?_services_cluster hwants completes_added_web).services
  rw [target_of_ports hports] at hservices
  rw [exposed, hservices, Dict.get?_insert_self]

theorem completes_updated_web (s : Service) :
    (exposed.storing s).Completes reconciler (.updated web s) :=
  completes_of_stored ((failing_storing _ _).trans failing_exposed) (get?_services_storing _ _)

end Sample

/-! ## The end of a lifecycle -/

/-- A run of notifications about a service in a namespace without routing objects ends with one by
which the service, as it is stored by then, does not ask for exposure any more. Routing objects are
left under the names that the service was exposed under and not withdrawn under since, except for
the last one, so there are none if that was the only one. The service is stored without its URL and
without the alias that it names in the end, and is otherwise what it was. -/
theorem lifecycle_leaves_former_names {r : Reconciler} {key : ObjectKey}
    {start before found : Cluster} {ns : List Notification} {old new : Service}
    (hempty : ∀ name, start.ingresses.get? ⟨key.inNamespace, name⟩ = none ∧
      start.routes.get? ⟨key.inNamespace, name⟩ = none)
    (hbefore : Lifecycle r key start ns before) (hsame : SameRouting key.inNamespace before found)
    (hkey : new.key = key) (hstored : found.services.get? key = some new)
    (hallows : r.allows new.name) (hold : old.isExposed) (hnew : ¬new.isExposed)
    (hn : found.Completes r (.updated old new)) :
    let last := found.handled r (.updated old new)
    last.RoutesUnder r.strategy key.inNamespace ((ns.foldl r.left []).filter (· ≠ new.appName)) ∧
      ((∀ n ∈ ns, n.Exposes n.service → n.service.appName = new.appName) → ∀ name,
        last.ingresses.get? ⟨key.inNamespace, name⟩ = none ∧
          last.routes.get? ⟨key.inNamespace, name⟩ = none) ∧
      ∃ stored, last.services.get? key = some stored ∧ Service.Edits new.recordKeys new stored ∧
        ∀ other, stored.annotation? other =
          if other ∈ new.recordKeys then none else new.annotation? other := by
  intro last
  subst hkey
  have hwants : r.wants (.updated old new) := by
    simp [Reconciler.wants, Notification.service, Notification.concernsExposed, hallows, hold]
  have hwithdraws :
      ¬(Notification.updated old new).Exposes (Notification.updated old new).service :=
    fun h => hnew h.2
  have hstart : start.RoutesUnder r.strategy new.key.inNamespace [] := .of_none _ hempty
  have hleft : r.left (ns.foldl r.left []) (.updated old new) =
      (ns.foldl r.left []).filter (· ≠ new.appName) := by
    rw [Reconciler.left, if_pos hwants, if_neg hwithdraws]
    rfl
  have hlast :
      last.RoutesUnder r.strategy new.key.inNamespace
        ((ns.foldl r.left []).filter (· ≠ new.appName)) :=
    hleft ▸ ((hbefore.routesUnder hstart).of_same hsame).handled (n := .updated old new) hn
  refine ⟨hlast, fun honly name => hlast.eq_none fun hmem => ?_, new.clearUrl,
    get?_services_of_withdraws hstored hwants hnew hn, new.edits_clearUrl, new.annotation?_clearUrl⟩
  obtain ⟨hmem, hne⟩ := List.mem_filter.1 hmem
  rcases Reconciler.exists_of_mem_foldl_left hmem with hnil | ⟨n, hn, hexposes, rfl⟩
  · exact absurd hnil List.not_mem_nil
  · exact absurd (honly n hn hexposes) (of_decide_eq_true hne)

open Sample in
/-- The service is exposed, loses its label and is withdrawn: nothing is left of its exposure. -/
theorem lifecycle_leaves_former_names_web :
    let last := (exposed.storing unlabelled).handled reconciler (.updated web unlabelled)
    (∀ name, last.ingresses.get? ⟨"ns1", name⟩ = none ∧ last.routes.get? ⟨"ns1", name⟩ = none) ∧
      ∃ stored, last.services.get? web.key = some stored ∧
        stored.annotation? Annotation.exposeUrl = none ∧
        stored.annotation? "example.com/host" = none := by
  have hkey : unlabelled.key = web.key := by decide
  have hunexposed : ¬unlabelled.isExposed := by decide
  have hkeys : unlabelled.recordKeys = [ Annotation.exposeUrl, "example.com/host"] := by decide
  have happ : web.appName = unlabelled.appName := by decide
  have hstored : (exposed.storing unlabelled).services.get? web.key = some unlabelled := by
    rw [← hkey, get?_services_storing]
  obtain ⟨-, hnone, stored, hlast, -, hcleared⟩ :=
    lifecycle_leaves_former_names (fun name => ⟨rfl, rfl⟩) lifecycle_web
      (sameRouting_storing _ _ _) hkey hstored rfl isExposed_web hunexposed
      (completes_updated_web unlabelled)
  refine ⟨hnone fun n hn _ => ?_, stored, hlast, ?_, ?_⟩
  · rw [List.mem_singleton.1 hn]
    exact happ
  · rw [hcleared, hkeys]
    rfl
  · rw [hcleared, hkeys]
    rfl

open Sample in
/-- The service is exposed and withdrawn. When it lost its label, it got another name for its
ingress and ceased to name an alias, so the ingress that was made for it is left, and so is the host
that was recorded. -/
theorem former_names_left : web.isExposed ∧ (∀ name, cluster.ingresses.get? ⟨"ns1", name⟩ = none) ∧
    Lifecycle reconciler web.key cluster [.added web] exposed ∧
    exposed.services.get? web.key = some (strategy.desired web) ∧
    renamed = { strategy.desired web with
      metadata.labels := none
      metadata.annotations :=
        some <| ((strategy.desired web).annotations.insert Annotation.ingressName "other").erase
        Annotation.exposeHostNameAs } ∧
    renamed.key = web.key ∧ ¬renamed.isExposed ∧
    (exposed.storing renamed).Completes reconciler (.updated web renamed) ∧
    let last := (exposed.storing renamed).handled reconciler (.updated web renamed)
    (last.ingresses.get? ⟨"ns1", "web"⟩).isSome ∧
      ∃ stored, last.services.get? web.key = some stored ∧
        stored.annotation? "example.com/host" = some "web.ns1.example.com" := by
  have hkey : renamed.key = web.key := by decide
  have hunexposed : ¬renamed.isExposed := by decide
  have hwants : reconciler.wants (.updated web renamed) := by decide
  have hcompletes := completes_updated_web renamed
  have hleft : [.added web].foldl reconciler.left [] = ["web"] := by decide
  have hexposed :=
    (lifecycle_web.routesUnder (.of_none _ fun _ => ⟨rfl, rfl⟩)).of_same
      (sameRouting_storing _ _ renamed)
  rw [hleft, ← hkey] at hexposed
  have hlast := hexposed.handled (n := .updated web renamed) hcompletes
  have hstored := get?_services_of_withdraws (get?_services_storing _ _) hwants hunexposed
    hcompletes
  refine ⟨isExposed_web, fun _ => rfl, lifecycle_web, get?_services_exposed, rfl, hkey, hunexposed,
    hcompletes, ?_, renamed.clearUrl, hkey ▸ hstored, ?_⟩
  · have hmem : "web" ∈ reconciler.left ["web"] (.updated web renamed) := by decide
    exact (hlast.ingress "web").2 ⟨rfl, hmem⟩
  · have hkeys : renamed.recordKeys = [ Annotation.exposeUrl] := by decide
    rw [Service.annotation?_clearUrl, hkeys, if_neg (by decide)]
    decide

end ServiceExposure
