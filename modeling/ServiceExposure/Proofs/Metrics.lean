import ServiceExposure.Proofs.Redelivery
import ServiceExposure.Proofs.Replay
import ServiceExposure.Proofs.Watching

/-! # What the metrics tell

Metrics count notifications and failures one by one. Writes are counted together once the last of a
plan has been made, so that those are missed which the store accepted before another failed. Which
ones it accepted is told by a store that keeps a record of them; to the controller it is the same
store (`Cluster.records_handle`). -/

namespace ServiceExposure

/-! ## Recording stores -/

namespace Store

variable {m : Type → Type} [Monad m] {α : Type}

/-- A call that leaves the record as it is. -/
def passed (call : Attempt m α) : Attempt (StateT (List Write) m) α :=
  ExceptT.mk (StateT.lift call.run)

/-- A store with a record of the writes that it has accepted. -/
def recording (store : Store m) : Store (StateT (List Write) m) where
  apiPaths := passed store.apiPaths
  nodes := passed store.nodes
  pod? key := passed (store.pod? key)
  service? key := passed (store.service? key)
  ingresses ns := passed (store.ingresses ns)
  routes ns := passed (store.routes ns)
  configMaps ns := passed (store.configMaps ns)
  deployments ns := passed (store.deployments ns)
  write w := do
    passed (store.write w)
    modify (· ++ [w])

end Store

namespace Cluster

section

variable {α β : Type} {c : Cluster} {ws : List Write}

/-- The outcome of an action with a record, together with the record, and the cluster after it. -/
def runRecorded (action : Attempt (StateT (List Write) (StateM Cluster)) α) (record : List Write)
    (c : Cluster) :
    (Except Failure α × List Write) × Cluster :=
  StateT.run (m := Id) (StateT.run (ExceptT.run action) record) c

/-- Whether an action with a record ends as one without, and adds these writes to the record. -/
def Records (recorded : Attempt (StateT (List Write) (StateM Cluster)) α)
    (action : Attempt (StateM Cluster) α) (c : Cluster) (ws : List Write) : Prop :=
  ∀ record, runRecorded recorded record c = (((run action c).1, record ++ ws), (run action c).2)

theorem runRecorded_bind (action : Attempt (StateT (List Write) (StateM Cluster)) α)
    (next : α → Attempt (StateT (List Write) (StateM Cluster)) β) (record : List Write)
    (c : Cluster) :
    runRecorded (action >>= next) record c =
      match runRecorded action record c with
      | ((.ok a, record), c) => runRecorded (next a) record c
      | ((.error failure, record), c) => ((.error failure, record), c) := by
  simp only [runRecorded, ExceptT.run_bind, StateT.run_bind]
  rcases StateT.run (StateT.run (ExceptT.run action) record) c with ⟨⟨failure | a, record⟩, c⟩ <;>
    rfl

theorem records_pure (a : α) (c : Cluster) : Records (pure a) (pure a) c [] := fun record => by
  rw [List.append_nil]
  rfl

theorem records_passed (call : Attempt (StateM Cluster) α) (c : Cluster) :
    Records (Store.passed call) call c [] :=
  fun record => by
    rw [List.append_nil]
    rfl

theorem Records.within {recorded : Attempt (StateT (List Write) (StateM Cluster)) α}
    {action : Attempt (StateM Cluster) α} (h : Records recorded action c ws) (context : String) :
    Records (Attempt.within context recorded) (Attempt.within context action) c ws := by
  intro record
  have hrun : runRecorded (Attempt.within context recorded) record c =
      (((runRecorded recorded record c).1.1.mapError (.within context),
        (runRecorded recorded record c).1.2), (runRecorded recorded record c).2) := rfl
  rw [hrun, h record, run_within]

variable {recorded : Attempt (StateT (List Write) (StateM Cluster)) α}
  {action : Attempt (StateM Cluster) α}
  {recordedNext : α → Attempt (StateT (List Write) (StateM Cluster)) β}
  {next : α → Attempt (StateM Cluster) β}

theorem Records.bind_of_ok {a : α} {after : Cluster} {more : List Write}
    (h : Records recorded action c ws) (hrun : run action c = (.ok a, after))
    (hnext : Records (recordedNext a) (next a) after more) :
    Records (recorded >>= recordedNext) (action >>= next) c (ws ++ more) := fun record => by
  rw [runRecorded_bind, h record, run_bind, hrun]
  simp only
  rw [hnext, List.append_assoc]

theorem Records.bind_of_error {failure : Failure} {after : Cluster}
    (h : Records recorded action c ws) (hrun : run action c = (.error failure, after)) :
    Records (recorded >>= recordedNext) (action >>= next) c ws :=
  fun record => by rw [runRecorded_bind, h record, run_bind, hrun]

/-- Calls that read leave the record as it is. -/
theorem Records.bind_nil (h : Records recorded action c [])
    (hnext : ∀ a after, Records (recordedNext a) (next a) after []) :
    Records (recorded >>= recordedNext) (action >>= next) c [] := by
  cases hrun : run action c with
  | mk outcome after =>
    cases outcome with
    | ok a => exact h.bind_of_ok hrun (hnext a after)
    | error failure => exact h.bind_of_error hrun

end

/-! ## Handling on a recording store -/

theorem records_write (w : Write) (c : Cluster) :
    Records (store.recording.write w) (store.write w) c
      (if (c.write w).1.toBool then [w] else []) := by
  intro record
  simp only [Store.recording]
  rw [runRecorded_bind, records_passed, run_write]
  cases hwrite : c.write w with
  | mk outcome after =>
    cases outcome with
    | ok _ => simp [runRecorded, Except.toBool]; rfl
    | error failure => simp [Except.toBool]

/-- What is recorded of writes in order is a first part of them, and all of them if none fails. -/
theorem records_apply (ws : List Write) (c : Cluster) : ∃ accepted, accepted <+: ws ∧
    Records (store.recording.apply ws) (store.apply ws) c accepted ∧
      ((run (store.apply ws) c).1 = .ok () → accepted = ws) := by
  induction ws generalizing c with
  | nil => exact ⟨[], List.prefix_rfl, records_pure () c, fun _ => rfl⟩
  | cons w ws ih =>
    have hfirst := (records_write w c).within ("failed to " ++ w.text)
    have hwrite : run (Attempt.within ("failed to " ++ w.text) (store.write w)) c =
        ((c.write w).1.mapError (.within ("failed to " ++ w.text)), (c.write w).2) :=
      run_within _ _ _
    cases hw : c.write w with
    | mk outcome after =>
      rw [hw] at hfirst hwrite
      cases outcome with
      | ok _ =>
        obtain ⟨accepted, hprefix, hrecords, hall⟩ := ih after
        refine ⟨w :: accepted, List.cons_prefix_cons.2 ⟨rfl, hprefix⟩,
          hfirst.bind_of_ok hwrite hrecords, fun hok => ?_⟩
        rw [Store.apply, run_bind, hwrite] at hok
        rw [hall hok]
      | error failure =>
        refine ⟨[], List.nil_prefix, hfirst.bind_of_error hwrite, fun hok => ?_⟩
        rw [Store.apply, run_bind, hwrite] at hok
        cases hok

theorem records_apply_length (ws : List Write) (c : Cluster) : ∃ accepted, accepted <+: ws ∧
    Records (store.recording.apply ws >>= fun _ => pure ws.length)
      (store.apply ws >>= fun _ => pure ws.length) c accepted ∧
      ∀ k, (run (store.apply ws >>= fun _ => pure ws.length) c).1 = .ok k →
        accepted = ws ∧ accepted.length = k := by
  obtain ⟨accepted, hprefix, happly, hall⟩ := records_apply ws c
  refine ⟨accepted, hprefix, ?_, fun k hk => ?_⟩
  · cases hrun : run (store.apply ws) c with
    | mk outcome after =>
      cases outcome with
      | ok _ =>
        rw [← List.append_nil accepted]
        exact happly.bind_of_ok hrun (records_pure ws.length after)
      | error failure => exact happly.bind_of_error hrun
  · rw [run_bind] at hk
    cases hrun : run (store.apply ws) c with
    | mk outcome after =>
      rw [hrun] at hk hall
      cases outcome with
      | ok _ => exact ⟨hall rfl, hall rfl ▸ Except.ok.inj hk⟩
      | error failure => cases hk

theorem records_load (strategy : Strategy) (ns : String) (c : Cluster) :
    Records (Snapshot.load store.recording strategy ns) (Snapshot.load store strategy ns) c [] := by
  have hlisted {α : Type} (context : String) (call : Attempt (StateM Cluster) α) (c : Cluster) :
      Records (Attempt.within context (Store.passed call)) (Attempt.within context call) c [] :=
    (records_passed call c).within context
  have hrest (first second : String)
      (build : List ConfigMap → List Deployment → Snapshot) (c : Cluster) :
      Records
        (do
          let configMaps ← Attempt.within first (store.recording.configMaps ns)
          let deployments ← Attempt.within second (store.recording.deployments ns)
          return build configMaps deployments)
        (do
          let configMaps ← Attempt.within first (store.configMaps ns)
          let deployments ← Attempt.within second (store.deployments ns)
          return build configMaps deployments)
        c [] :=
    (hlisted _ _ c).bind_nil fun configMaps c => (hlisted _ _ c).bind_nil fun deployments c =>
      records_pure _ c
  -- what a strategy does not route with is not asked for
  cases hexposer : strategy.exposer with
  | ingress =>
    simp only [Snapshot.load, hexposer, reduceCtorEq, if_true, if_false]
    exact (hlisted _ _ c).bind_nil fun ingresses c =>
      (records_pure [] c).bind_nil fun routes c => hrest _ _ _ c
  | route =>
    simp only [Snapshot.load, hexposer, reduceCtorEq, if_true, if_false]
    exact (records_pure [] c).bind_nil fun ingresses c =>
      (hlisted _ _ c).bind_nil fun routes c => hrest _ _ _ c
  | nodePort | loadBalancer =>
    simp only [Snapshot.load, hexposer, reduceCtorEq, if_false]
    exact (records_pure [] c).bind_nil fun ingresses c =>
      (records_pure [] c).bind_nil fun routes c => hrest _ _ _ c

/-- A notification is handled on a recording store as on the store. What is recorded is a first part
of the plan, and if the handling succeeds, the plan in all its length. -/
theorem records_handle (r : Reconciler) (n : Notification) (c : Cluster) :
    let planned := r.plan n (c.snapshot r.strategy n.service.key.inNamespace)
    ∃ accepted, accepted <+: planned ∧
      Records (r.handle store.recording n) (r.handle store n) c accepted ∧
      ∀ k, (run (r.handle store n) c).1 = .ok k → accepted = planned ∧ accepted.length = k := by
  intro planned
  cases hwants : r.wants n with
  | false =>
    have hplanned : planned = [] := by
      simp only [planned, Reconciler.plan, hwants, Bool.false_eq_true, if_false]
    rw [hplanned, run_handle_of_not_wants hwants]
    simp only [Reconciler.handle, hwants, Bool.false_eq_true, if_false]
    exact ⟨[], List.prefix_rfl, records_pure 0 c, fun k hk => ⟨rfl, Except.ok.inj hk⟩⟩
  | true =>
    have hload := (records_load r.strategy n.service.key.inNamespace c).within
      s!"failed to load namespace {n.service.key.inNamespace}"
    cases hlists : c.lists r.strategy with
    | false =>
      obtain ⟨failure, hfailed⟩ := run_load_of_not_lists hlists n.service.key.inNamespace
      obtain ⟨failure', hfailed'⟩ := run_handle_of_not_lists hwants hlists
      refine ⟨[], List.nil_prefix, ?_, fun k hk => by rw [hfailed'] at hk; cases hk⟩
      simp only [Reconciler.handle, hwants, if_true]
      exact hload.bind_of_error (run_within_of_error hfailed _)
    | true =>
      have hloaded := run_within_of_ok (run_load_of_lists hlists n.service.key.inNamespace)
        s!"failed to load namespace {n.service.key.inNamespace}"
      obtain ⟨accepted, hprefix, happly, hall⟩ := records_apply_length planned c
      have hrun : run (r.handle store n) c =
          run (store.apply planned >>= fun _ => pure planned.length) c := by
        simp only [Reconciler.handle, hwants, if_true]
        rw [run_bind, hloaded]
      rw [hrun]
      refine ⟨accepted, hprefix, ?_, hall⟩
      simp only [Reconciler.handle, hwants, if_true]
      exact hload.bind_of_ok hloaded happly

end Cluster

/-! ## Histories -/

/-- What became of a notification: the outcome of handling it, and the writes that the store
accepted. -/
structure Handling where
  notification : Notification
  outcome : Except Failure Nat
  accepted : List Write
  complete : ∀ k, outcome = .ok k → accepted.length = k

namespace Handling

def failed (h : Handling) : Bool := !h.outcome.isOk

/-- How many writes the store accepted in all. -/
def accepts (history : List Handling) : Nat := (history.flatMap fun h => h.accepted).length

theorem accepts_failed_eq_zero_iff {history : List Handling} :
    accepts (history.filter failed) = 0 ↔ ∀ h ∈ history, h.failed → h.accepted = [] := by
  simp only [accepts, List.length_eq_zero_iff, List.flatMap_eq_nil_iff, List.mem_filter, and_imp]

end Handling

namespace Cluster

/-- What becomes of a notification, as a recording store tells it. -/
def handling (r : Reconciler) (c : Cluster) (n : Notification) : Handling where
  notification := n
  outcome := (run (r.handle store n) c).1
  accepted := (runRecorded (r.handle store.recording n) [] c).1.2
  complete := by
    obtain ⟨accepted, -, hrecords, hall⟩ := records_handle r n c
    intro k hk
    rw [hrecords]
    exact (hall k hk).2

/-- What becomes of notifications that are handled in turn. -/
def handlings (r : Reconciler) : Cluster → List Notification → List Handling
  | _, [] => []
  | c, n :: ns => c.handling r n :: handlings r (c.handled r n) ns

theorem notification_handlings (r : Reconciler) (c : Cluster) (ns : List Notification) :
    (c.handlings r ns).map (·.notification) = ns := by
  induction ns generalizing c with
  | nil => rfl
  | cons n ns ih => exact congrArg (n :: ·) (ih _)

end Cluster

namespace Metrics

/-- The metrics once it is known what became of a notification. -/
def note (m : Metrics) (h : Handling) : Metrics :=
  match h.outcome with
  | .ok writes => m.handled h.notification writes
  | .error _ => m.failed h.notification

theorem getD_increment (counts : Dict String Nat) (kind other : String) :
    ((increment counts kind).get? other).getD 0 =
      (counts.get? other).getD 0 + if kind = other then 1 else 0 := by
  by_cases h : kind = other
  · subst h
    simp [increment]
  · simp [increment, Dict.get?_insert_of_ne _ h, h]

/-- What metrics count of a history, on top of what they had counted. -/
structure Counts (history : List Handling) (before after : Metrics) : Prop where
  notifications : ∀ kind, (after.notifications.get? kind).getD 0 =
    (before.notifications.get? kind).getD 0 + history.countP fun h => h.notification.kind = kind
  failures : ∀ kind, (after.failures.get? kind).getD 0 =
    (before.failures.get? kind).getD 0 + history.countP fun h =>
      h.notification.kind = kind && h.failed
  writes : after.writes + Handling.accepts (history.filter Handling.failed) =
    before.writes + Handling.accepts history

theorem counts_note (m : Metrics) (h : Handling) : Counts [h] m (m.note h) := by
  cases hout : h.outcome with
  | ok k =>
    have hok : h.failed = false := by rw [Handling.failed, hout]; rfl
    have haccepted := h.complete k hout
    constructor
    · intro kind
      simp [note, hout, handled, getD_increment, List.countP_cons]
    · intro kind
      simp [note, hout, handled, hok]
    · simp [note, hout, handled, hok, Handling.accepts, haccepted]
  | error failure =>
    have hfailed : h.failed = true := by rw [Handling.failed, hout]; rfl
    constructor
    · intro kind
      simp [note, hout, Metrics.failed, getD_increment, List.countP_cons]
    · intro kind
      simp [note, hout, Metrics.failed, getD_increment, List.countP_cons, hfailed]
    · simp [note, hout, Metrics.failed, hfailed, Handling.accepts]

theorem Counts.append {history later : List Handling} {before between after : Metrics}
    (h : Counts history before between) (h' : Counts later between after) :
    Counts (history ++ later) before after where
  notifications kind := by
    rw [h'.notifications, h.notifications, List.countP_append, Nat.add_assoc]
  failures kind := by
    rw [h'.failures, h.failures, List.countP_append, Nat.add_assoc]
  writes := by
    have hwrites := h.writes
    have hwrites' := h'.writes
    simp only [Handling.accepts, List.filter_append, List.flatMap_append, List.length_append] at *
    omega

theorem counts_foldl (history : List Handling) (m : Metrics) :
    Counts history m (history.foldl note m) := by
  induction history generalizing m with
  | nil => exact ⟨fun _ => rfl, fun _ => rfl, rfl⟩
  | cons h history ih => exact (counts_note m h).append (ih (m.note h))

end Metrics

namespace Watching

variable {r : Reconciler}

theorem metrics_handle (metrics : Metrics) (n : Notification) (c : Cluster) :
    (StateT.run (m := Id) (Watch.handle r Cluster.store metrics n) c).1 =
      metrics.note (c.handling r n) := by
  have houtcome : (c.handling r n).outcome =
      (StateT.run (m := Id) (ExceptT.run (r.handle Cluster.store n)) c).1 := rfl
  have hnotification : (c.handling r n).notification = n := rfl
  rw [Metrics.note, houtcome, hnotification, Watch.handle, StateT.run_bind]
  rcases StateT.run (ExceptT.run (r.handle Cluster.store n)) c with ⟨failure | k, c⟩ <;> rfl

theorem metrics_handleAll (metrics : Metrics) (ns : List Notification) (c : Cluster) :
    (StateT.run (m := Id) (Watch.handleAll r Cluster.store metrics ns) c).1 =
      (c.handlings r ns).foldl Metrics.note metrics := by
  induction ns generalizing metrics c with
  | nil => rfl
  | cons n ns ih =>
    rw [Watch.handleAll, StateT.run_bind, Cluster.handlings, List.foldl_cons,
      ← metrics_handle metrics n c, ← cluster_handle metrics n c]
    exact ih _ _

/-- What becomes of the notifications that a happening leads to. -/
def handlings (r : Reconciler) (state : Watching) : Happening → List Handling
  | .event event => state.cluster.handlings r (state.watch.tracker.process event).1
  | .put _ _ | .drop _ _ | .fail _ => []

def history (r : Reconciler) : Watching → List Happening → List Handling
  | _, [] => []
  | state, happening :: happenings =>
    state.handlings r happening ++ history r (next r state happening) happenings

theorem metrics_next (state : Watching) (happening : Happening) :
    (next r state happening).watch.metrics =
      (state.handlings r happening).foldl Metrics.note state.watch.metrics := by
  cases happening with
  | event event => exact metrics_handleAll _ _ _
  | put kind document => rfl
  | drop kind key => rfl
  | fail calls => rfl

theorem metrics_after (state : Watching) (happenings : List Happening) :
    (after r state happenings).watch.metrics =
      (history r state happenings).foldl Metrics.note state.watch.metrics := by
  induction happenings generalizing state with
  | nil => rfl
  | cons happening happenings ih =>
    rw [history, List.foldl_append, ← metrics_next]
    exact ih _

end Watching

/-- The event of a watch, if that is what happens. -/
def Happening.event? : Happening → Option WatchEvent
  | .event e => some e
  | .put _ _ | .drop _ _ | .fail _ => none

namespace Watching

variable {r : Reconciler}

/-- The history is that of the notifications that the tracker tells. -/
theorem notification_history (state : Watching) (happenings : List Happening) :
    (history r state happenings).map (·.notification) =
      (state.watch.tracker.processAll (happenings.filterMap Happening.event?)).1 := by
  induction happenings generalizing state with
  | nil => rfl
  | cons happening happenings ih =>
    rw [history, List.map_append, ih]
    cases happening with
    | event event =>
      rw [handlings, Cluster.notification_handlings, tracker_next_event]
      rfl
    | put kind document => rfl
    | drop kind key => rfl
    | fail calls => rfl

end Watching

/-! ## The metrics -/

/-- The metrics of a watch count, for each kind, the notifications that the tracker tells and those
among them that are not handled to the end. The writes that they count fall short of those that the
store accepted by what it accepted for notifications that then failed, so the number is right
exactly if no such notification got a write through. -/
theorem metrics_tell (r : Reconciler) (c : Cluster) (happenings : List Happening) :
    let counted := (Watching.after r { cluster := c } happenings).watch.metrics
    let history := Watching.history r { cluster := c } happenings
    history.map (·.notification) =
      (Tracker.processAll {} (happenings.filterMap Happening.event?)).1 ∧
      (∀ kind, (counted.notifications.get? kind).getD 0 = history.countP fun h =>
        h.notification.kind = kind) ∧
      (∀ kind, (counted.failures.get? kind).getD 0 = history.countP fun h =>
        h.notification.kind = kind && h.failed) ∧
      counted.writes + Handling.accepts (history.filter Handling.failed) =
        Handling.accepts history ∧
      (counted.writes = Handling.accepts history ↔ ∀ h ∈ history, h.failed → h.accepted = []) := by
  intro counted history
  have hcounts : Metrics.Counts history {} counted := by
    simp only [counted, Watching.metrics_after]
    exact Metrics.counts_foldl history {}
  have hwrites : counted.writes + Handling.accepts (history.filter Handling.failed) =
      Handling.accepts history :=
    hcounts.writes.trans (Nat.zero_add _)
  refine ⟨Watching.notification_history _ _, fun kind => ?_, fun kind => ?_, hwrites, ?_⟩
  · exact (hcounts.notifications kind).trans (Nat.zero_add _)
  · exact (hcounts.failures kind).trans (Nat.zero_add _)
  · rw [← Handling.accepts_failed_eq_zero_iff]
    omega

open Sample in
/-- The ingress of a service is written before its patch fails. No write is counted. -/
theorem accepted_write_not_counted :
    let happenings := [.fail [ObjectKind.service.name], .event (.apply web)]
    (Watching.after reconciler { cluster } happenings).watch.metrics.writes = 0 ∧
      Handling.accepts (Watching.history reconciler { cluster } happenings) = 1 := by
  decide +kernel

end ServiceExposure
