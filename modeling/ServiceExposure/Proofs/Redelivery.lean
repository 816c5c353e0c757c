import ServiceExposure.Proofs.Plan

/-! # Deliveries converge

A notification that was handled can be delivered again and leaves the cluster as it is. The
notification of the change that handling an exposed service made is handled without a write. -/

namespace ServiceExposure

namespace Cluster

variable {r : Reconciler} {n : Notification} {c after : Cluster} {k : Nat}

/-- A delivery converges if all that is planned once its writes have been made is to make some of
them again without effect. -/
theorem run_handle_again (h : run (r.handle store n) c = (.ok k, after))
    (hagain : ∀ s, c.effects (r.plan n (c.snapshot r.strategy n.service.key.inNamespace)) = .ok s →
      r.plan n (s.snapshot r.strategy n.service.key.inNamespace) ⊆
          r.plan n (c.snapshot r.strategy n.service.key.inNamespace) ∧
        s.effects (r.plan n (s.snapshot r.strategy n.service.key.inNamespace)) = .ok s) :
    ∃ k' again, run (r.handle store n) after = (.ok k', again) ∧
      again.unlogged = after.unlogged := by
  cases hwants : r.wants n with
  | false =>
    rw [run_handle_of_not_wants hwants] at h
    obtain rfl : c = after := (Prod.mk.inj h).2
    exact ⟨0, c, run_handle_of_not_wants hwants c, rfl⟩
  | true =>
    obtain ⟨hlists, hallowed, s, heffects, rfl⟩ := effects_of_run_handle hwants h
    obtain ⟨hsub, hsettled⟩ := hagain s heffects
    -- every write of the second plan was made in the first, so none of them is told to fail
    have hfailing := (effects_keep heffects).1
    refine ⟨_, _,
      run_handle_of_effects hwants ?_ (fun w hw => ?_) (effects_with_log.2 ⟨s, hsettled, rfl⟩), rfl⟩
    · simpa [lists, fails, hfailing] using hlists
    · simpa [allows, fails, hfailing] using hallowed w (hsub hw)

/-- What a notification calls for is settled once it is done. -/
theorem plan_settles
    (hlines : Propagation.StaysOnLines r.settings
      (r.strategy.target n.service (c.snapshot r.strategy n.service.key.inNamespace)))
    {after : Cluster}
    (h : c.effects (r.plan n (c.snapshot r.strategy n.service.key.inNamespace)) = .ok after) :
    r.plan n (after.snapshot r.strategy n.service.key.inNamespace) ⊆
        r.plan n (c.snapshot r.strategy n.service.key.inNamespace) ∧
      after.effects (r.plan n (after.snapshot r.strategy n.service.key.inNamespace)) =
        .ok after := by
  cases hwants : r.wants n with
  | false =>
    simp only [Reconciler.plan, hwants, Bool.false_eq_true, if_false] at h ⊢
    exact ⟨List.Subset.refl _, rfl⟩
  | true =>
    cases n with
    | added s =>
      simp only [Reconciler.plan, hwants, if_true, Notification.service] at h ⊢
      exact planAdd_settles hlines h
    | updated old new =>
      simp only [Reconciler.plan, hwants, if_true, Notification.service] at h ⊢
      split
      · next hexposed => exact planAdd_settles hlines (by simpa [hexposed] using h)
      · next hexposed => exact planRemove_settles (by simpa [hexposed] using h)
    | deleted s =>
      simp only [Reconciler.plan, hwants, if_true, Notification.service, filter_planRemove] at h ⊢
      -- a service that is gone is not patched
      obtain ⟨unrouted, hunrouting, -, hsettled⟩ := r.strategy.unrouting_settles s
      obtain rfl : unrouted = after := Except.ok.inj (hunrouting.symm.trans h)
      rw [hsettled]
      exact ⟨List.nil_subset _, rfl⟩

end Cluster

/-! ## Convergence -/

open Cluster

/-- A notification that asks for a service to be exposed. -/
def Notification.Exposes (n : Notification) (s : Service) : Prop :=
  (n = .added s ∨ ∃ old, n = .updated old s) ∧ s.isExposed

/-- A service without line rules gets none by being exposed. -/
theorem staysOnLines_target {s : Service} (halias : s.AliasIsFree)
    (h : s.annotation? Annotation.configYaml = none) (st : Strategy) (snapshot : Snapshot)
    (settings : Propagation.Settings) :
    Propagation.StaysOnLines settings (st.target s snapshot) := by
  obtain ⟨-, -, halike⟩ := st.target_again halias snapshot
  exact Propagation.staysOnLines_of_none
    ((halike.annotation? _ (by decide) (by decide)).trans h) settings

theorem Reconciler.plan_of_exposes {n : Notification} {s : Service} (h : n.Exposes s)
    (r : Reconciler) (snapshot : Snapshot) : n.service = s ∧ r.wants n = r.allows s.name ∧
      (r.allows s.name → r.plan n snapshot = r.planAdd s snapshot) := by
  obtain ⟨rfl | ⟨old, rfl⟩, hexposed⟩ := h <;>
    simp_all [plan, wants, Notification.service, Notification.concernsExposed]

theorem Reconciler.plan_of_withdraws {r : Reconciler} {old s : Service}
    (hwants : r.wants (.updated old s)) (hs : ¬s.isExposed) (snapshot : Snapshot) :
    r.plan (.updated old s) snapshot = r.planRemove s snapshot := by
  simp only [plan, hwants, hs, if_true, Bool.false_eq_true, if_false]

/-- Where no call is told to fail, a notification takes the cluster through the stages to its
end. -/
theorem run_handle_of_stages {r : Reconciler} {n : Notification} {s t : Service} (hn : n.Exposes s)
    (hallows : r.allows s.name) {c routed recorded : Cluster} (h : Stages r s t c routed recorded)
    (log : List Write) :
    ∃ k last, run (r.handle store n) (cleared { c with log }) = (.ok k, last) ∧
      last.unlogged = (recorded.propagated r.settings t s.key.inNamespace).cleared.unlogged := by
  obtain ⟨hservice, hwants, hplan⟩ := r.plan_of_exposes hn (c.snapshot r.strategy s.key.inNamespace)
  refine run_handle_cleared (hwants.trans hallows) ?_ log
  rw [hservice, hplan hallows, h.effects]

/-- Handling a notification converges. Handled again, it leaves the cluster as it is, apart from its
log. And where it exposes a stored service, the change of that service is handled without a
write. -/
theorem redelivery_converges {r : Reconciler} {n : Notification} {c after : Cluster} {k : Nat}
    (hlines : Propagation.StaysOnLines r.settings
      (r.strategy.target n.service (c.snapshot r.strategy n.service.key.inNamespace)))
    (h : run (r.handle store n) c = (.ok k, after)) :
    (∃ k' again, run (r.handle store n) after = (.ok k', again) ∧ again.unlogged = after.unlogged) ∧
      ∀ s, n.Exposes s → c.services.get? s.key = some s → s.AliasIsFree →
        ∃ new, after.services.get? s.key = some new ∧
          run (r.handle store (.updated s new)) after = (.ok 0, after) := by
  refine ⟨run_handle_again h fun s heffects => plan_settles hlines heffects,
    fun s hn hstored halias => ?_⟩
  obtain ⟨hservice, hwants, hplan⟩ := r.plan_of_exposes hn (c.snapshot r.strategy s.key.inNamespace)
  rw [hservice] at hlines
  cases hallows : r.allows s.name with
  | false =>
    rw [run_handle_of_not_wants (hwants.trans hallows)] at h
    obtain rfl : c = after := (Prod.mk.inj h).2
    refine ⟨s, hstored, run_handle_of_not_wants ?_ c⟩
    simp [Reconciler.wants, Notification.service, hallows]
  | true =>
    obtain ⟨hlists, -, last, heffects, rfl⟩ := effects_of_run_handle (hwants.trans hallows) h
    rw [hservice, hplan hallows] at heffects
    have hnew := get?_services_of_planAdd hstored heffects
    obtain ⟨hexposes, halike⟩ := (exposes_of_planAdd hlines heffects).of_target halias
    -- the stored service is its own target by now, so not even the patch is left
    generalize
      r.strategy.target s (c.snapshot r.strategy s.key.inNamespace) = t at hnew hexposes halike
    have hexposed : t.isExposed := halike.isExposed.trans hn.2
    have hwants' : r.wants (.updated s t) := by
      simp [Reconciler.wants, Notification.service, Notification.concernsExposed, halike.name,
        hallows, hexposed]
    have hplan' : r.plan (.updated s t) (last.snapshot r.strategy t.key.inNamespace) = [] := by
      simp only [Reconciler.plan, hwants', hexposed, if_true, hexposes.planAdd, patchWrites_self]
    refine ⟨t, hnew, run_handle_of_plan_nil hwants' ?_ hplan'⟩
    simpa [lists, fails, (effects_keep heffects).1] using hlists

/-! ## A service, a configuration map and a deployment -/

namespace Sample

/-- An exposed service, which asks for its host under one more annotation. -/
def web : Service where
  metadata := {
    name := some "web"
    inNamespace := some "ns1"
    uid := some "web-uid"
    labels := some (.ofList [ Annotation.exposeLabel])
    annotations := some (.ofList [( Annotation.exposeHostNameAs, "example.com/host")]) }
  spec := some { ports := some [{ port := 80 }] }

/-- A configuration map that asks for the URL of the service. -/
def webConfig : ConfigMap where
  metadata := {
    name := some "web-config"
    inNamespace := some "ns1"
    annotations := some (.ofList [(UrlForm.plain.requestKey "web", "url")]) }

/-- A deployment that reads the configuration map. -/
def frontend : Deployment where
  metadata := {
    name := some "frontend"
    inNamespace := some "ns1"
    annotations := some (.ofList [( Annotation.updateOnChange, "web-config")]) }
  spec := some { template := { spec := some { containers := [{ name := "app" }] } } }

def cluster : Cluster where
  services := .insert ∅ web.key web
  configMaps := .put ∅ webConfig
  deployments := .put ∅ frontend

def strategy : IngressStrategy where
  domain := "example.com"
  internalDomain := none
  template := .standard
  pathMode := none
  ingressClass := none
  tls := { secretName := none, acme := false, wildcard := false }

def reconciler : Reconciler where
  strategy := .ingress strategy
  settings := { urlProtocol := "http" }

theorem get?_services_cluster : cluster.services.get? web.key = some web :=
  Dict.get?_insert_self _ _ _

theorem isExposed_web : web.isExposed := by decide

theorem annotation?_configYaml_web : web.annotation? Annotation.configYaml = none := by decide

theorem aliasIsFree_web : web.AliasIsFree := by
  intro other hother
  have halias : Service.aliasKey? web.annotations = some "example.com/host" := by decide
  obtain rfl : "example.com/host" = other := Option.some.inj (halias.symm.trans hother)
  decide

end Sample

open Sample in
theorem redelivery_converges_web :
    ∃ k after, run (reconciler.handle store (.added web)) cluster = (.ok k, after) ∧
    (∃ k' again, run (reconciler.handle store (.added web)) after = (.ok k', again) ∧
      again.unlogged = after.unlogged) ∧
    ∃ new, after.services.get? web.key = some new ∧
      run (reconciler.handle store (.updated web new)) after = (.ok 0, after) := by
  have hexposes : (Notification.added web).Exposes web := ⟨.inl rfl, isExposed_web⟩
  obtain ⟨t, routed, recorded, hstages⟩ := exists_stages reconciler get?_services_cluster
  obtain ⟨k, after, hrun, -⟩ := run_handle_of_stages hexposes rfl hstages []
  have hlines := staysOnLines_target aliasIsFree_web annotation?_configYaml_web reconciler.strategy
    (cluster.snapshot reconciler.strategy web.key.inNamespace) reconciler.settings
  obtain ⟨hagain, hupdated⟩ := redelivery_converges hlines hrun
  exact ⟨k, after, hrun, hagain, hupdated web hexposes get?_services_cluster aliasIsFree_web⟩

end ServiceExposure
