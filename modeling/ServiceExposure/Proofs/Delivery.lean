import ServiceExposure.Cluster
import ServiceExposure.Controller
import ServiceExposure.Proofs.Lookup
import ServiceExposure.Proofs.Outcomes

/-! # Deliveries to a cluster in memory

Handling a notification is a run from one cluster to the next. Here the run is taken apart: what is
loaded is the snapshot of a namespace (`Cluster.snapshot`), and what the planned writes do is the
fold of their effects up to the first that is told to fail (`Cluster.run_apply`,
`Cluster.run_handle`). -/

namespace ServiceExposure

namespace Cluster

/-! ## Runs -/

/-- The outcome of an action, and the cluster after it. -/
def run {α : Type} (action : Attempt (StateM Cluster) α) (c : Cluster) :
    Except Failure α × Cluster :=
  StateT.run (ExceptT.run action) c

section

variable {α β : Type}

@[simp] theorem run_pure (a : α) (c : Cluster) : run (pure a) c = (.ok a, c) := rfl

theorem run_bind (action : Attempt (StateM Cluster) α) (next : α → Attempt (StateM Cluster) β)
    (c : Cluster) :
    run (action >>= next) c =
      match run action c with
      | (.ok a, c) => run (next a) c
      | (.error failure, c) => (.error failure, c) := by
  refine (Attempt.outcome_bind action next c).trans ?_
  rw [run, ← Attempt.outcome]
  rcases action.outcome c with ⟨failure | a, c⟩ <;> rfl

theorem run_map (f : α → β) (action : Attempt (StateM Cluster) α) (c : Cluster) :
    run (f <$> action) c = ((run action c).1.map f, (run action c).2) :=
  Attempt.outcome_map f action c

theorem run_within (context : String) (action : Attempt (StateM Cluster) α) (c : Cluster) :
    run (Attempt.within context action) c = ((run action c).1.mapError (.within context),
      (run action c).2) :=
  Attempt.outcome_within context action c

theorem run_within_of_ok {action : Attempt (StateM Cluster) α} {a : α} {c after : Cluster}
    (h : run action c = (.ok a, after)) (context : String) :
    run (Attempt.within context action) c = (.ok a, after) := by
  rw [run_within, h]
  rfl

theorem run_within_of_error {action : Attempt (StateM Cluster) α} {failure : Failure}
    {c after : Cluster} (h : run action c = (.error failure, after)) (context : String) :
    run (Attempt.within context action) c = (.error (failure.within context), after) := by
  rw [run_within, h]
  rfl

@[simp] theorem run_read (call : Call) (value : Cluster → α) (c : Cluster) :
    run (read call value) c =
      (if c.fails call then .error { cause := .injected call.name } else .ok (value c), c) := rfl

@[simp] theorem run_write (w : Write) (c : Cluster) : run (store.write w) c = c.write w := rfl

end

/-! ## Writes in order -/

/-- The effects of writes in order, as long as each has one. -/
def effects (c : Cluster) (writes : List Write) : Except Cause Cluster := writes.foldlM effect c

/-- The cluster with no call told to fail. -/
def cleared (c : Cluster) : Cluster := { c with failing := [] }

/-- The cluster without the record of what was written to it. -/
def unlogged (c : Cluster) : Cluster := { c with log := [] }

/-- Whether a write is not told to fail. -/
def allows (c : Cluster) (w : Write) : Bool := !c.fails (.write w.kind)

@[simp] theorem effects_nil (c : Cluster) : c.effects [] = .ok c := rfl

theorem effects_cons (c : Cluster) (w : Write) (ws : List Write) :
    c.effects (w :: ws) = (c.effect w).bind (effects · ws) := rfl

theorem effects_append (c : Cluster) (ws more : List Write) :
    c.effects (ws ++ more) = (c.effects ws).bind (effects · more) := List.foldlM_append

theorem effects_cons_eq_ok_iff {c after : Cluster} {w : Write} {ws : List Write} :
    c.effects (w :: ws) = .ok after ↔
    ∃ next, c.effect w = .ok next ∧ next.effects ws = .ok after := by
  rw [effects_cons]
  cases c.effect w <;> simp [Except.bind]

/-- An ingress is created just where there is none. -/
theorem createIngress_eq_ok_iff {c after : Cluster} {i : Ingress} : c.createIngress i = .ok after ↔
    c.ingresses.get? i.metadata.key = none ∧ after = { c with ingresses := c.ingresses.put i } := by
  have hcontains : c.ingresses.contains i.metadata.key = (c.ingresses.get? i.metadata.key).isSome :=
    rfl
  rw [createIngress, hcontains]
  cases c.ingresses.get? i.metadata.key <;> simp [eq_comm]

/-- A service is patched just where there is one, and the patch makes a service of it. -/
theorem patchService_eq_ok_iff {c after : Cluster} {key : ObjectKey} {patch : Json} :
    c.patchService key patch = .ok after ↔ ∃ s patched, c.services.get? key = some s ∧
      Service.ofJson? (Json.merge patch s.toJson) = some patched ∧
      after = { c with services := c.services.insert key patched } := by
  rw [patchService]
  cases c.services.get? key with
  | none => simp
  | some s => cases hpatched : Service.ofJson? (Json.merge patch s.toJson) <;>
      simp [hpatched, eq_comm]

/-- Writes have no effect on the log or on which calls fail. -/
theorem effect_keeps {c after : Cluster} {w : Write} (h : c.effect w = .ok after) :
    after.failing = c.failing ∧ after.log = c.log := by
  cases w with
  | createIngress i =>
    obtain ⟨-, rfl⟩ := createIngress_eq_ok_iff.1 h
    exact ⟨rfl, rfl⟩
  | patchService key patch =>
    obtain ⟨s, patched, -, -, rfl⟩ := patchService_eq_ok_iff.1 h
    exact ⟨rfl, rfl⟩
  | _ =>
    cases h
    exact ⟨rfl, rfl⟩

/-- Nor do the log and the failing calls bear on their effects. -/
theorem effect_labelled (c : Cluster) (w : Write) (failing : List String) (log : List Write) :
    effect { c with failing, log } w = (c.effect w).map fun s => { s with failing, log } := by
  cases w with
  | createIngress i =>
    simp only [effect, createIngress]
    split <;> rfl
  | patchService key patch =>
    simp only [effect, patchService]
    cases c.services.get? key with
    | none => rfl
    | some s =>
      simp only
      cases Service.ofJson? (Json.merge patch s.toJson) <;> rfl
  | _ => rfl

theorem effect_with_log (c : Cluster) (w : Write) (log : List Write) :
    effect { c with log } w = (c.effect w).map fun s => { s with log } := by
  rw [effect_labelled c w c.failing log]
  cases h : c.effect w with
  | error cause => rfl
  | ok after => simp [Except.map, (effect_keeps h).1]

theorem effects_keep {c after : Cluster} {ws : List Write} (h : c.effects ws = .ok after) :
    after.failing = c.failing ∧ after.log = c.log := by
  induction ws generalizing c with
  | nil =>
    cases h
    exact ⟨rfl, rfl⟩
  | cons w ws ih =>
    obtain ⟨next, hw, hws⟩ := effects_cons_eq_ok_iff.1 h
    exact ⟨(ih hws).1.trans (effect_keeps hw).1, (ih hws).2.trans (effect_keeps hw).2⟩

theorem effects_labelled {c after : Cluster} {ws log : List Write} {failing : List String} :
    effects { c with failing, log } ws = .ok after ↔
    ∃ s, c.effects ws = .ok s ∧ after = { s with failing, log } := by
  induction ws generalizing c with
  | nil => simp [eq_comm]
  | cons w ws ih =>
    simp only [effects_cons_eq_ok_iff, effect_labelled]
    cases c.effect w with
    | error cause => simp [Except.map]
    | ok next => simp [Except.map, ih]

theorem effects_with_log {c after : Cluster} {ws log : List Write} :
    effects { c with log } ws = .ok after ↔ ∃ s, c.effects ws = .ok s ∧ after = { s with log } := by
  rw [effects_labelled]
  refine exists_congr fun s => and_congr_right fun hs => ?_
  rw [← (effects_keep hs).1]

theorem write_of_effect {c after : Cluster} {w : Write} (hallowed : c.allows w)
    (h : c.effect w = .ok after) :
    c.write w = (.ok (), { after with log := w :: c.log }) := by
  have hfails : c.fails (.write w.kind) = false := by simpa [allows] using hallowed
  simp [write, hfails, effect_with_log, h, Except.map]

theorem write_of_not_allowed {c : Cluster} {w : Write} (h : c.allows w = false) :
    c.write w = (.error { cause := .injected (Call.write w.kind).name }, c) := by
  have hfails : c.fails (.write w.kind) = true := by simpa [allows] using h
  simp [write, hfails]

theorem effect_of_write {c after : Cluster} {w : Write} (h : c.write w = (.ok (), after)) :
    c.allows w ∧ ∃ next, c.effect w = .ok next ∧ after = { next with log := w :: c.log } := by
  cases hallowed : c.allows w with
  | false =>
    rw [write_of_not_allowed hallowed] at h
    cases h
  | true =>
    have hfails : c.fails (.write w.kind) = false := by simpa [allows] using hallowed
    cases heffect : c.effect w with
    | error cause => simp [write, hfails, effect_with_log, heffect, Except.map] at h
    | ok next =>
      rw [write_of_effect hallowed heffect] at h
      exact ⟨rfl, next, rfl, (Prod.mk.inj h).2.symm⟩

/-! ## Applying writes -/

theorem run_apply_cons (w : Write) (ws : List Write) (c : Cluster) :
    run (store.apply (w :: ws)) c =
      match c.write w with
      | (.ok (), c) => run (store.apply ws) c
      | (.error failure, c) => (.error (failure.within ("failed to " ++ w.text)), c) := by
  rw [Store.apply, run_bind, run_within, run_write]
  rcases c.write w with ⟨failure | ⟨⟩, c⟩ <;> rfl

theorem allows_of_effect {c after : Cluster} {w : Write} (h : c.effect w = .ok after)
    (log : List Write) :
    allows { after with log } = c.allows := by
  funext w
  simp [allows, fails, (effect_keeps h).1]

/-- Of writes that have effects, those are made that come before the first that is told to fail. -/
theorem run_apply {c after : Cluster} {ws : List Write} (h : c.effects ws = .ok after) :
    ∃ made rest s, ws = made ++ rest ∧ (∀ w ∈ made, c.allows w) ∧ c.effects made = .ok s ∧
      (run (store.apply ws) c).2 = { s with log := made.reverse ++ c.log } ∧
      ((rest = [] ∧ (run (store.apply ws) c).1 = .ok ()) ∨
        (∃ w, rest.head? = some w ∧ c.allows w = false) ∧ ∃ failure,
          (run (store.apply ws) c).1 = .error failure) := by
  -- on the writes; the first that is told to fail ends those that are made
  induction ws generalizing c after with
  | nil => exact ⟨[], [], c, rfl, by simp, rfl, rfl, .inl ⟨rfl, rfl⟩⟩
  | cons w ws ih =>
    obtain ⟨next, hw, hws⟩ := effects_cons_eq_ok_iff.1 h
    cases hallowed : c.allows w with
    | false =>
      rw [run_apply_cons, write_of_not_allowed hallowed]
      exact ⟨[], w :: ws, c, rfl, by simp, rfl, rfl, .inr ⟨⟨w, rfl, hallowed⟩, _, rfl⟩⟩
    | true =>
      -- the rest starts with a longer log, which bears on neither its effects nor its failures
      have hlogged :
          effects { next with log := w :: c.log } ws = .ok { after with log := w :: c.log } :=
        effects_with_log.2 ⟨after, hws, rfl⟩
      obtain ⟨made, rest, s, rfl, hmade, heffects, hstate, hend⟩ := ih hlogged
      rw [allows_of_effect hw] at hmade hend
      obtain ⟨s', hs', rfl⟩ := effects_with_log.1 heffects
      rw [run_apply_cons, write_of_effect hallowed hw]
      refine ⟨w :: made, rest, s', rfl, ?_, effects_cons_eq_ok_iff.2 ⟨next, hw, hs'⟩, ?_, hend⟩
      · simpa [hallowed] using hmade
      · simpa using hstate

theorem run_apply_of_allowed {c after : Cluster} {ws : List Write} (hallowed : ∀ w ∈ ws, c.allows w)
    (h : c.effects ws = .ok after) :
    run (store.apply ws) c = (.ok (), { after with log := ws.reverse ++ c.log }) := by
  obtain ⟨made, rest, s, rfl, -, heffects, hstate, ⟨rfl, hok⟩ | ⟨⟨w, hhead, hforbidden⟩, -⟩⟩ :=
    run_apply h
  · rw [List.append_nil] at h hstate hok ⊢
    rw [h] at heffects
    cases heffects
    exact Prod.ext hok hstate
  -- a write that stopped the run would be one that is told to fail
  · have hmem : w ∈ rest := List.mem_of_mem_head? (by rw [hhead]; rfl)
    simp [hallowed w (List.mem_append_right made hmem)] at hforbidden

/-- Writes that were all made had effects, and none was told to fail. -/
theorem effects_of_run_apply {c after : Cluster} {ws : List Write}
    (h : run (store.apply ws) c = (.ok (), after)) :
    (∀ w ∈ ws, c.allows w) ∧ ∃ s, c.effects ws = .ok s ∧
      after = { s with log := ws.reverse ++ c.log } := by
  induction ws generalizing c with
  | nil =>
    obtain rfl : c = after := (Prod.mk.inj h).2
    exact ⟨by simp, c, rfl, rfl⟩
  | cons w ws ih =>
    rw [run_apply_cons] at h
    split at h
    · next next hwrite =>
      obtain ⟨hallowed, s, hs, rfl⟩ := effect_of_write hwrite
      obtain ⟨hws, t, ht, rfl⟩ := ih h
      rw [allows_of_effect hs] at hws
      obtain ⟨t', ht', rfl⟩ := effects_with_log.1 ht
      exact ⟨by simpa [hallowed] using hws, t', effects_cons_eq_ok_iff.2 ⟨s, hs, ht'⟩, by simp⟩
    · cases h

/-! ## Handling -/

/-- What a strategy sees of a namespace. -/
def snapshot (c : Cluster) (strategy : Strategy) (ns : String) : Snapshot where
  ingresses :=
    Resource.byName (if strategy.exposer = .ingress then c.ingresses.inNamespace ns else [])
  routes := Resource.byName (if strategy.exposer = .route then c.routes.inNamespace ns else [])
  configMaps := Resource.byName (c.configMaps.inNamespace ns)
  deployments := Resource.byName (c.deployments.inNamespace ns)

/-- The kinds of objects that a strategy lists. -/
def listed (strategy : Strategy) : List ObjectKind :=
  (if strategy.exposer = .ingress then [.ingress] else []) ++
    (if strategy.exposer = .route then [.route] else []) ++
    [.configMap, .deployment]

/-- Whether none of the calls that a strategy loads a namespace with is told to fail. -/
def lists (c : Cluster) (strategy : Strategy) : Bool :=
  (listed strategy).all fun kind => !c.fails (.list kind)

/-- A listing finds what is there or fails, and leaves the cluster as it is. -/
theorem run_listing {α : Type} (context : String) (call : Call) (value : Cluster → α)
    (c : Cluster) :
    run (Attempt.within context (read call value)) c =
      (if c.fails call then .error { contexts := [context], cause := .injected call.name }
        else .ok (value c), c) := by
  rw [run_within, run_read]
  split <;> rfl

theorem run_load_of_lists {c : Cluster} {strategy : Strategy} (h : c.lists strategy) (ns : String) :
    run (Snapshot.load store strategy ns) c = (.ok (c.snapshot strategy ns), c) := by
  cases hexposer : strategy.exposer <;> simp [lists, listed, hexposer] at h <;>
    simp [Snapshot.load, store, snapshot, run_bind, run_map, run_listing, hexposer, h, Except.map]

theorem run_load_of_not_lists {c : Cluster} {strategy : Strategy} (h : c.lists strategy = false)
    (ns : String) :
    ∃ failure, run (Snapshot.load store strategy ns) c = (.error failure, c) := by
  -- the first listing that is told to fail ends the load, whichever of the four it is
  cases hmaps : c.fails (.list .configMap) <;> cases hdeployments : c.fails (.list .deployment) <;>
    cases hingresses : c.fails (.list .ingress) <;> cases hroutes : c.fails (.list .route) <;>
    cases hexposer : strategy.exposer <;>
    simp [lists, listed, hexposer, hmaps, hdeployments, hingresses, hroutes] at h <;>
    simp [Snapshot.load, store, run_bind, run_map, run_listing, hexposer, hmaps, hdeployments,
      hingresses, hroutes, Except.map]

theorem run_handle_of_not_wants {r : Reconciler} {n : Notification} (h : r.wants n = false)
    (c : Cluster) :
    run (r.handle store n) c = (.ok 0, c) := by
  simp [Reconciler.handle, h]

/-- A delivery loads the namespace, plans, and applies what is planned. -/
theorem run_handle {r : Reconciler} {n : Notification} (hwants : r.wants n) {c : Cluster}
    (hlists : c.lists r.strategy) :
    run (r.handle store n) c =
      let writes := r.plan n (c.snapshot r.strategy n.service.key.inNamespace)
      ((run (store.apply writes) c).1.map fun _ => writes.length,
          (run (store.apply writes) c).2) := by
  simp only [Reconciler.handle, hwants, if_true, run_bind,
    run_within_of_ok (run_load_of_lists hlists _)]
  rcases run (store.apply _) c with ⟨failure | ⟨⟩, after⟩ <;> rfl

/-- Without the namespace nothing is written. -/
theorem run_handle_of_not_lists {r : Reconciler} {n : Notification} (hwants : r.wants n)
    {c : Cluster} (h : c.lists r.strategy = false) :
    ∃ failure, run (r.handle store n) c = (.error failure, c) := by
  obtain ⟨failure, hload⟩ := run_load_of_not_lists h n.service.key.inNamespace
  refine ⟨failure.within s!"failed to load namespace {n.service.key.inNamespace}", ?_⟩
  simp only [Reconciler.handle, hwants, if_true, run_bind, run_within_of_error hload]

/-- A delivery that succeeds has made all writes that were planned. -/
theorem effects_of_run_handle {r : Reconciler} {n : Notification} (hwants : r.wants n)
    {c after : Cluster} {k : Nat} (h : run (r.handle store n) c = (.ok k, after)) :
    let writes := r.plan n (c.snapshot r.strategy n.service.key.inNamespace)
    c.lists r.strategy ∧ (∀ w ∈ writes, c.allows w) ∧
      ∃ s, c.effects writes = .ok s ∧ after = { s with log := writes.reverse ++ c.log } := by
  intro writes
  cases hlists : c.lists r.strategy with
  | false =>
    obtain ⟨failure, hfailed⟩ := run_handle_of_not_lists hwants hlists
    rw [hfailed] at h
    cases h
  | true =>
    rw [run_handle hwants hlists] at h
    obtain ⟨hresult, hstate⟩ := Prod.mk.inj h
    cases hrun : run (store.apply writes) c with
    | mk result state =>
      simp only [writes] at hrun
      simp only [hrun] at hresult hstate
      cases result with
      | error failure => cases hresult
      | ok done =>
        subst hstate
        exact ⟨rfl, effects_of_run_apply hrun⟩

/-- A delivery of writes that are allowed and have effects succeeds. -/
theorem run_handle_of_effects {r : Reconciler} {n : Notification} (hwants : r.wants n)
    {c after : Cluster} (hlists : c.lists r.strategy) :
    let writes := r.plan n (c.snapshot r.strategy n.service.key.inNamespace)
    (∀ w ∈ writes, c.allows w) → c.effects writes = .ok after →
      run (r.handle store n) c = (.ok writes.length,
        { after with log := writes.reverse ++ c.log }) := by
  intro writes hallowed heffects
  simp only [run_handle hwants hlists]
  rw [run_apply_of_allowed hallowed heffects]
  rfl

/-- Where no call is told to fail, it is enough that the writes have effects. -/
theorem run_handle_of_works {r : Reconciler} {n : Notification} (hwants : r.wants n)
    {c after : Cluster} (hworks : c.failing = []) :
    let writes := r.plan n (c.snapshot r.strategy n.service.key.inNamespace)
    c.effects writes = .ok after →
      run (r.handle store n) c = (.ok writes.length,
        { after with log := writes.reverse ++ c.log }) := by
  have hlists : c.lists r.strategy := by simp [lists, fails, hworks]
  have hallowed (w : Write) : c.allows w := by simp [allows, fails, hworks]
  exact run_handle_of_effects hwants hlists fun w _ => hallowed w

/-- So it is once failures are cleared. -/
theorem run_handle_cleared {r : Reconciler} {n : Notification} (hwants : r.wants n)
    {c after : Cluster}
    (h : c.effects (r.plan n (c.snapshot r.strategy n.service.key.inNamespace)) = .ok after)
    (log : List Write) :
    ∃ k last, run (r.handle store n) (cleared { c with log }) = (.ok k, last) ∧
      last.unlogged = after.cleared.unlogged := by
  have heffects :
      effects { c with failing := [], log }
        (r.plan n (c.snapshot r.strategy n.service.key.inNamespace)) =
      .ok { after with failing := [], log } := effects_labelled.2 ⟨after, h, rfl⟩
  exact ⟨_, _, run_handle_of_works hwants rfl heffects, rfl⟩

theorem run_handle_of_plan_nil {r : Reconciler} {n : Notification} (hwants : r.wants n)
    {c : Cluster} (hlists : c.lists r.strategy)
    (hplan : r.plan n (c.snapshot r.strategy n.service.key.inNamespace) = []) :
    run (r.handle store n) c = (.ok 0, c) := by
  simp only [run_handle hwants hlists, hplan]
  rfl

end Cluster

end ServiceExposure
