import ServiceExposure.Proofs.Bindings
import ServiceExposure.Proofs.Confinement
import ServiceExposure.Proofs.Replay

/-! # Routing follows the watch

As long as all notifications are handled, every service that is remembered with the wish to be
exposed has a path of its ingress. The event that shows a service places it; all other events are
about services with other keys, and these have their ingresses elsewhere, unless two services have
one application name. -/

namespace ServiceExposure

/-! ## Events and what is remembered -/

/-- The service that an event is about, if it is about one. -/
def WatchEvent.object? : WatchEvent → Option Service
  | initApply s | apply s | delete s => some s
  | init | initDone => none

theorem WatchEvent.object?_of_shown? {event : WatchEvent} {s : Service}
    (h : event.shown? = some s) :
    event.object? = some s := by
  cases event <;> first | exact h | cases h

namespace Tracker

variable {t : Tracker} {event : WatchEvent}

/-- A service that is remembered is the one that the event shows, or was remembered before and is
not spoken of. -/
theorem shown_or_kept {key : ObjectKey} {s : Service}
    (hs : (t.process event).2.services.get? key = some s) :
    event.shown? = some s ∨ t.services.get? key = some s ∧
      ∀ n ∈ (t.process event).1, n.service.key ≠ key := by
  have hobserve (t : Tracker) (new : Service) (hs : (t.observe new).2.services.get? key = some s) :
      some new = some s ∨ t.services.get? key = some s ∧
        ∀ n ∈ (t.observe new).1, n.service.key ≠ key := by
    by_cases hkey : new.key = key
    · subst hkey
      exact .inl ((t.get?_services_observe_self new).symm.trans hs)
    · refine .inr ⟨(t.get?_services_observe_of_ne hkey).symm.trans hs, fun n hn => ?_⟩
      rw [List.mem_singleton.1 hn]
      split <;> exact hkey
  cases event with
  | init => exact .inr ⟨hs, fun n hn => absurd hn List.not_mem_nil⟩
  | initApply new => exact hobserve _ new hs
  | apply new => exact hobserve t new hs
  | delete gone =>
    by_cases hkey : gone.key = key
    · simp [process, hkey] at hs
    · refine .inr ⟨(t.services.get?_erase_of_ne hkey).symm.trans hs, fun n hn => ?_⟩
      rw [List.mem_singleton.1 hn]
      exact hkey
  | initDone =>
    refine .inr ?_
    simp only [process] at hs ⊢
    split
    · next hnone =>
      rw [hnone] at hs
      exact ⟨hs, fun n hn => absurd hn List.not_mem_nil⟩
    · next relisted hrelisted =>
      rw [hrelisted] at hs
      simp only [get?_services_finishList] at hs
      split at hs
      · next hlisted =>
        refine ⟨hs, fun n hn heq => ?_⟩
        -- only services that have not been listed are spoken of
        obtain ⟨other, gone, hgone, hother, rfl⟩ := mem_finishList.1 hn
        have hkey : gone.key = other := Shelf.key_of_get? hgone
        exact hother (hkey.symm.trans heq ▸ hlisted)
      · cases hs

/-- An event that shows a service leads to one notification, which is about the service as it is
shown. -/
theorem process_of_shown (t : Tracker) {s : Service} (h : event.shown? = some s) :
    ∃ n, (t.process event).1 = [n] ∧ (n = .added s ∨ ∃ old, n = .updated old s) := by
  cases event with
  | init | delete _ | initDone => cases h
  | initApply new | apply new =>
    cases h
    refine ⟨_, rfl, ?_⟩
    split
    · exact .inr ⟨_, rfl⟩
    · exact .inl rfl

/-- Notifications are about the object of the event, or about services that are remembered. -/
theorem known_of_mem_process {n : Notification} (hn : n ∈ (t.process event).1) :
    event.object? = some n.service ∨ ∃ key, t.services.get? key = some n.service := by
  cases event with
  | init => exact absurd hn List.not_mem_nil
  | initApply s | apply s =>
    rw [List.mem_singleton.1 hn]
    refine .inl ?_
    split <;> rfl
  | delete s =>
    rw [List.mem_singleton.1 hn]
    exact .inl rfl
  | initDone =>
    simp only [process] at hn
    split at hn
    · exact absurd hn List.not_mem_nil
    · obtain ⟨key, s, hs, -, rfl⟩ := mem_finishList.1 hn
      exact .inr ⟨key, hs⟩

end Tracker

/-! ## Notifications and ingresses -/

namespace Cluster

variable {r : Reconciler} {st : IngressStrategy} {n : Notification} {s : Service} {c : Cluster}

/-- Whether no path of a first rule is empty text. -/
def HasPlainPaths (c : Cluster) : Prop :=
  ∀ key, ∀ p ∈ IngressStrategy.boundPaths (c.ingresses.get? key), nonEmpty? p.path = p.path

/-- Whether a notification is handled without a failure. -/
def Completes (r : Reconciler) (c : Cluster) (n : Notification) : Prop :=
  ∃ k, (run (r.handle store n) c).1 = .ok k

/-- Whether notifications are handled one after the other without a failure. -/
def Handles (r : Reconciler) (c : Cluster) : List Notification → Prop
  | [] => True
  | n :: ns => c.Completes r n ∧ Handles r (c.handled r n) ns

/-- A notification that is handled without a failure leads to the effect of what it calls for. -/
theorem effects_of_completes (hwants : r.wants n) (h : c.Completes r n) : ∃ last log,
    c.effects (r.plan n (c.snapshot r.strategy n.service.key.inNamespace)) = .ok last ∧
    c.handled r n = { last with log } := by
  obtain ⟨k, hk⟩ := h
  have hrun : run (r.handle store n) c = (.ok k, c.handled r n) := Prod.ext hk rfl
  obtain ⟨-, -, last, heffects, hlast⟩ := effects_of_run_handle hwants hrun
  exact ⟨last, _, heffects, hlast⟩

/-- Where no call is told to fail, a notification is handled if what it calls for has an effect. -/
theorem completes_of_effects {after : Cluster} (hworks : c.failing = [])
    (h : c.effects (r.plan n (c.snapshot r.strategy n.service.key.inNamespace)) = .ok after) :
    c.Completes r n := by
  cases hwants : r.wants n with
  | false => exact ⟨0, by rw [run_handle_of_not_wants hwants]⟩
  | true => exact ⟨_, by rw [run_handle_of_works hwants hworks h]⟩

/-- Where no call is told to fail, a stored service is exposed without a failure. -/
theorem completes_of_exposes {live : Service} (hworks : c.failing = []) (hn : n.Exposes s)
    (hlive : c.services.get? s.key = some live) : c.Completes r n := by
  obtain ⟨t, routed, recorded, hstages⟩ := exists_stages r hlive
  obtain ⟨rfl, hwants, hplan⟩ := r.plan_of_exposes hn (c.snapshot r.strategy s.key.inNamespace)
  cases hallows : r.allows n.service.name with
  | false => exact ⟨0, by rw [run_handle_of_not_wants (hwants.trans hallows)]⟩
  | true =>
    have heffects := hstages.effects
    rw [← hplan hallows] at heffects
    exact completes_of_effects hworks heffects

/-- Where no call is told to fail, whatever is told of a stored service is handled without a
failure. -/
theorem completes_of_stored {live : Service} (hworks : c.failing = [])
    (hlive : c.services.get? n.service.key = some live) :
    c.Completes r n := by
  by_cases hexposes : n.Exposes n.service
  · exact completes_of_exposes hworks hexposes hlive
  cases hwants : r.wants n with
  | false => exact ⟨0, by rw [run_handle_of_not_wants hwants]⟩
  | true =>
    obtain ⟨unrouted, hunrouting, hsame, -⟩ := r.strategy.unrouting_settles n.service (c := c)
    cases n with
    | added s =>
      -- a new service is acted on only if it is exposed
      exact absurd ⟨.inl rfl, (Bool.and_eq_true_iff.1 hwants).2⟩ hexposes
    | updated old new =>
      have hunexposed : ¬new.isExposed := fun h => hexposes ⟨.inr ⟨old, rfl⟩, h⟩
      refine completes_of_effects hworks
        (Eq.trans ?_ (effects_append_patchWrites hunrouting hsame hlive new.clearUrl))
      rw [Reconciler.plan_of_withdraws hwants hunexposed, planRemove_eq]
      rfl
    | deleted s =>
      -- the service is gone, so that it is not patched
      refine completes_of_effects hworks (Eq.trans ?_ hunrouting)
      simp only [Reconciler.plan, hwants, if_true, filter_planRemove, Notification.service]

/-- Whether no call is told to fail and the known services are stored. -/
structure Serves (known : Service → Prop) (c : Cluster) : Prop where
  works : c.failing = []
  stored : ∀ s, known s → (c.services.get? s.key).isSome

namespace Serves

variable {known : Service → Prop} (h : c.Serves known)
include h

/-- To handle a notification takes no service away. -/
theorem handled (r : Reconciler) (n : Notification) : (c.handled r n).Serves known where
  works := (confined_handled r n).apart.2.1.trans h.works
  stored s hs := by
    rcases (confined_handled (c := c) r n).services s.key with hsame | ⟨-, patched, -, hpatched, -⟩
    · exact hsame ▸ h.stored s hs
    · rw [hpatched]
      rfl

theorem handles (r : Reconciler) {ns : List Notification} (hns : ∀ n ∈ ns, known n.service) :
    c.Handles r ns := by
  induction ns generalizing c with
  | nil => exact True.intro
  | cons n ns ih =>
    obtain ⟨live, hlive⟩ :=
      Option.isSome_iff_exists.1 (h.stored n.service (hns n List.mem_cons_self))
    exact ⟨completes_of_stored h.works hlive,
      ih (h.handled r n) fun m hm => hns m (List.mem_cons_of_mem _ hm)⟩

end Serves

/-- Whether a service is on its path depends on its ingress alone. -/
theorem isPlaced_congr {after : Cluster}
    (h : after.ingresses.get? s.home = c.ingresses.get? s.home) :
    st.IsPlaced s after ↔ st.IsPlaced s c := by
  rw [IngressStrategy.IsPlaced, IngressStrategy.IsPlaced, h]

/-- A service that is on its path has a path with its binding in the first rule. -/
theorem firstLeadsTo_of_isPlaced (hplain : c.HasPlainPaths) (h : st.IsPlaced s c) :
    ∃ host p, c.FirstLeadsTo s.home host p ∧ p.binding = st.bindingOf s := by
  obtain ⟨p, hp, hbound⟩ := List.any_eq_true.1 h
  have hbinding := IngressStrategy.binding_of_isBound (hplain s.home p hp) hbound
  cases hget : c.ingresses.get? s.home with
  | none =>
    rw [hget] at hp
    exact absurd hp List.not_mem_nil
  | some i =>
    rw [hget] at hp
    cases hrules : i.rules with
    | nil => simp [IngressStrategy.boundPaths, hrules] at hp
    | cons rule rules =>
      rw [IngressStrategy.boundPaths_of_rules hrules] at hp
      exact ⟨rule.host, p, ⟨i, hget, rule, by rw [hrules]; rfl, rfl, hp⟩, hbinding⟩

/-- What handling a notification without a failure does to the ingresses: it leaves them, writes
that of the service, or takes that of a service away which is not exposed any more. -/
theorem ingresses_handled (hst : r.strategy = .ingress st) (h : c.Completes r n) :
    ((c.handled r n).ingresses = c.ingresses ∧
      (n.Exposes n.service → r.allows n.service.name →
        st.IsPlaced n.service c ∨ n.service.ports = [])) ∨
    (∃ port, (c.handled r n).ingresses =
      c.ingresses.put (st.ingressFor n.service (c.ingresses.get? n.service.home) port)) ∨
    ¬n.Exposes n.service ∧ ∀ key, (c.handled r n).ingresses.get? key =
      if key = n.service.home then none else c.ingresses.get? key := by
  cases hwants : r.wants n with
  | false =>
    rw [handled, run_handle_of_not_wants hwants]
    refine .inl ⟨rfl, fun hexposes hallows => ?_⟩
    obtain ⟨-, hallowed, -⟩ :=
      r.plan_of_exposes hexposes (c.snapshot r.strategy n.service.key.inNamespace)
    rw [hwants, hallows] at hallowed
    cases hallowed
  | true =>
    obtain ⟨last, log, heffects, hlast⟩ := effects_of_completes hwants h
    have hsame : (c.handled r n).ingresses = last.ingresses := by rw [hlast]
    rw [hsame]
    by_cases hexposes : n.Exposes n.service
    · obtain ⟨-, hallows, hplan⟩ :=
        r.plan_of_exposes hexposes (c.snapshot r.strategy n.service.key.inNamespace)
      rw [hplan (hallows.symm.trans hwants)] at heffects
      rcases ingresses_of_planAdd hst heffects with ⟨hplaced, hkept⟩ | ⟨-, port, -, hwritten⟩
      · exact .inl ⟨hkept, fun _ _ => hplaced⟩
      · exact .inr (.inl ⟨port, hwritten⟩)
    · exact .inr (.inr ⟨hexposes, get?_ingresses_of_plan hst hwants hexposes heffects⟩)

/-- A service that is exposed gets on its path. -/
theorem isPlaced_handled (hst : r.strategy = .ingress st) (h : c.Completes r n)
    (hexposes : n.Exposes n.service) (hallows : r.allows n.service.name)
    (hports : n.service.ports ≠ []) :
    st.IsPlaced n.service (c.handled r n) := by
  rcases ingresses_handled hst h with ⟨hsame, hplaced⟩ | ⟨port, hwritten⟩ | ⟨hnot, -⟩
  · exact (isPlaced_congr (by rw [hsame])).2 ((hplaced hexposes hallows).resolve_right hports)
  · rw [IngressStrategy.IsPlaced, hwritten, Shelf.get?_put_of_eq _ (c.key_ingressFor st _ port)]
    exact st.isBound_ingressFor _ _ port
  · exact absurd hexposes hnot

theorem HasPlainPaths.handled (hplain : c.HasPlainPaths) (hst : r.strategy = .ingress st)
    (h : c.Completes r n) : (c.handled r n).HasPlainPaths := by
  intro key p hp
  rcases ingresses_handled hst h with ⟨hsame, -⟩ | ⟨port, hwritten⟩ | ⟨-, hgone⟩
  · rw [hsame] at hp
    exact hplain key p hp
  · have hhome := c.key_ingressFor st n.service port
    rw [hwritten] at hp
    by_cases hkey : n.service.home = key
    · subst hkey
      rw [Shelf.get?_put_of_eq _ hhome] at hp
      rcases List.mem_cons.1 hp with rfl | hp
      · exact st.nonEmpty?_path_place n.service
      · exact hplain _ p hp
    · rw [Shelf.get?_put_of_ne _ fun heq => hkey (hhome.symm.trans heq)] at hp
      exact hplain key p hp
  · rw [hgone] at hp
    split at hp
    · exact absurd hp List.not_mem_nil
    · exact hplain key p hp

theorem HasPlainPaths.foldl_handled (hplain : c.HasPlainPaths) (hst : r.strategy = .ingress st)
    {ns : List Notification} (h : c.Handles r ns) :
    (ns.foldl (Cluster.handled r) c).HasPlainPaths := by
  induction ns generalizing c with
  | nil => exact hplain
  | cons n ns ih => exact ih (hplain.handled hst h.1) h.2

/-- Notifications about other services leave an ingress as it is, whether or not they are handled
without a failure. -/
theorem get?_ingresses_foldl_handled {ns : List Notification} {key : ObjectKey}
    (h : ∀ n ∈ ns, n.service.home ≠ key) :
    (ns.foldl (handled r) c).ingresses.get? key = c.ingresses.get? key := by
  induction ns generalizing c with
  | nil => rfl
  | cons n ns ih =>
    have hother : key ≠ n.service.home := (h n List.mem_cons_self).symm
    refine (ih fun n hn => h n (List.mem_cons_of_mem _ hn)).trans ?_
    exact (confined_handled r n).ingresses key hother

end Cluster

/-! ## Following -/

/-- Whether others leave the ingresses alone. -/
def Happening.LeavesIngresses : Happening → Prop
  | put kind _ | drop kind _ => kind ≠ .ingress
  | event _ | fail _ => True

namespace Watching

variable {r : Reconciler} {st : IngressStrategy} {known : Service → Prop} {state : Watching}

/-- Whether one of the events is about a service that looks like this. -/
def Shows (happenings : List Happening) (s : Service) : Prop :=
  ∃ event, .event event ∈ happenings ∧ event.object? = some s

/-- Whether all notifications of the events are handled without a failure. -/
def Succeeds (r : Reconciler) (state : Watching) : List Happening → Prop
  | [] => True
  | happening :: later =>
    (∀ event, happening = .event event →
      state.cluster.Handles r (state.watch.tracker.process event).1) ∧
      Succeeds r (next r state happening) later

/-- Whether services with different keys have their ingresses in different places. -/
def Apart (known : Service → Prop) : Prop :=
  ∀ s t, known s → known t → s.home = t.home → s.key = t.key

/-- A state in which all services that are remembered are known ones, and those that ask to be
exposed and can be are on their paths. -/
structure Follows (r : Reconciler) (st : IngressStrategy) (known : Service → Prop)
    (state : Watching) : Prop where
  plain : state.cluster.HasPlainPaths
  known : ∀ key s, state.watch.tracker.services.get? key = some s → known s
  placed : ∀ key s, state.watch.tracker.services.get? key = some s → s.isExposed → r.allows s.name →
    s.ports ≠ [] →
    st.IsPlaced s state.cluster

/-- An event keeps services on their paths, as those that it is about have their ingresses
elsewhere. -/
theorem Follows.event (h : Follows r st known state) (hst : r.strategy = .ingress st)
    (hapart : Apart known) {event : WatchEvent}
    (hobject : ∀ s, event.object? = some s → known s)
    (hsucceeds : state.cluster.Handles r (state.watch.tracker.process event).1) :
    Follows r st known (next r state (.event event)) where
  plain := by
    rw [cluster_next_event]
    exact h.plain.foldl_handled hst hsucceeds
  known key s hs := by
    rw [tracker_next_event] at hs
    rcases Tracker.shown_or_kept hs with hshown | ⟨hkept, -⟩
    · exact hobject s (WatchEvent.object?_of_shown? hshown)
    · exact h.known key s hkept
  placed key s hs hexposed hallows hports := by
    rw [tracker_next_event] at hs
    rw [cluster_next_event]
    rcases Tracker.shown_or_kept hs with hshown | ⟨hkept, hothers⟩
    · obtain ⟨n, hn, hnew⟩ := state.watch.tracker.process_of_shown hshown
      have hservice : n.service = s := by
        rcases hnew with rfl | ⟨old, rfl⟩ <;> rfl
      subst hservice
      rw [hn] at hsucceeds ⊢
      exact Cluster.isPlaced_handled hst hsucceeds.1 ⟨hnew, hexposed⟩ hallows hports
    · refine (Cluster.isPlaced_congr ?_).2 (h.placed key s hkept hexposed hallows hports)
      refine Cluster.get?_ingresses_foldl_handled fun n hn hhome => hothers n hn ?_
      -- whatever the notification is about has another key, so its home is another, too
      have hknown : known n.service := by
        rcases Tracker.known_of_mem_process hn with hevent | ⟨other, hother⟩
        · exact hobject _ hevent
        · exact h.known other _ hother
      have hsame : n.service.key = s.key := hapart _ _ hknown (h.known key s hkept) hhome
      exact hsame.trans (Shelf.key_of_get? hkept)

/-- What others do keeps services on their paths if it leaves the ingresses alone. -/
theorem Follows.next (h : Follows r st known state) (hst : r.strategy = .ingress st)
    (hapart : Apart known) {happening : Happening} (hquiet : happening.LeavesIngresses)
    (hobject : ∀ event s, happening = .event event → event.object? = some s → known s)
    (hsucceeds : ∀ event, happening = .event event →
      state.cluster.Handles r (state.watch.tracker.process event).1) :
    Follows r st known (next r state happening) := by
  have hother {c : Cluster} (hsame : c.ingresses = state.cluster.ingresses) :
      Follows r st known { state with cluster := c } :=
    { h with
      plain := fun key p hp => h.plain key p (hsame ▸ hp)
      placed := fun key s hs hexposed hallows hports =>
        (Cluster.isPlaced_congr (by rw [hsame])).2 (h.placed key s hs hexposed hallows hports) }
  cases happening with
  | event event =>
    exact h.event hst hapart (fun s hs => hobject event s rfl hs) (hsucceeds event rfl)
  | put kind document =>
    refine hother ?_
    cases hput : state.cluster.put? kind document with
    | none => rfl
    | some after =>
      cases kind <;> obtain ⟨o, -, rfl⟩ := Option.map_eq_some_iff.1 hput <;>
        first | rfl | exact absurd rfl hquiet
  | drop kind key =>
    refine hother ?_
    cases kind <;> first | rfl | exact absurd rfl hquiet
  | fail calls => exact hother rfl

theorem Follows.after (h : Follows r st known state) (hst : r.strategy = .ingress st)
    (hapart : Apart known) {happenings : List Happening}
    (hquiet : ∀ happening ∈ happenings, happening.LeavesIngresses)
    (hobject : ∀ s, Shows happenings s → known s) (hsucceeds : Succeeds r state happenings) :
    Follows r st known (after r state happenings) := by
  induction happenings generalizing state with
  | nil => exact h
  | cons happening later ih =>
    obtain ⟨hnow, hlater⟩ := hsucceeds
    have hnext := h.next hst hapart (hquiet happening List.mem_cons_self)
      (fun event s heq hs => hobject s ⟨event, heq ▸ List.mem_cons_self, hs⟩) hnow
    refine ih hnext (fun other hmem =>
      hquiet other (List.mem_cons_of_mem _ hmem)) (fun s hs => hobject s ?_) hlater
    obtain ⟨event, hmem, hevent⟩ := hs
    exact ⟨event, List.mem_cons_of_mem _ hmem, hevent⟩

/-- Where no call is told to fail, and all services that are spoken of are stored, all events are
handled. -/
theorem succeeds_of_serves {events : List WatchEvent} (h : state.cluster.Serves known)
    (hknown : ∀ key s, state.watch.tracker.services.get? key = some s → known s)
    (hobject : ∀ event ∈ events, ∀ s, event.object? = some s → known s) :
    Succeeds r state (events.map .event) := by
  induction events generalizing state with
  | nil => exact True.intro
  | cons event events ih =>
    have hnow : ∀ s, event.object? = some s → known s := hobject event List.mem_cons_self
    refine ⟨fun other heq => ?_,
      ih ?_ (fun key s hs => ?_) fun other hmem => hobject other (List.mem_cons_of_mem _ hmem)⟩
    · cases heq
      refine h.handles r fun n hn => ?_
      rcases Tracker.known_of_mem_process hn with hevent | ⟨key, hremembered⟩
      · exact hnow _ hevent
      · exact hknown key _ hremembered
    · rw [cluster_next_event]
      exact List.foldlRecOn _ _ h fun c hc n _ => hc.handled r n
    · rw [tracker_next_event] at hs
      rcases Tracker.shown_or_kept hs with hshown | ⟨hkept, -⟩
      · exact hnow s (WatchEvent.object?_of_shown? hshown)
      · exact hknown key s hkept

/-- What is remembered after events follows from them alone. -/
theorem tracker_after (r : Reconciler) (state : Watching) (events : List WatchEvent) :
    (after r state (events.map .event)).watch.tracker =
      (state.watch.tracker.processAll events).2 := by
  induction events generalizing state with
  | nil => rfl
  | cons event events ih => exact ih (next r state (.event event))

theorem shows_map_event_iff {events : List WatchEvent} {s : Service} :
    Shows (events.map .event) s ↔ s ∈ events.filterMap WatchEvent.object? := by
  simp [Shows, List.mem_filterMap]

end Watching

namespace Sample

/-- A service next to another. -/
def neighbouring (s : Service) (configMaps : Shelf ConfigMap) : Cluster where
  services := (Dict.insert ∅ s.key s).insert api.key api
  configMaps

theorem get?_services_neighbouring {s : Service} (configMaps : Shelf ConfigMap)
    (h : s.key ≠ api.key) :
    (neighbouring s configMaps).services.get? s.key = some s ∧
      (neighbouring s configMaps).services.get? api.key = some api :=
  ⟨(Dict.get?_insert_of_ne _ h.symm _).trans (Dict.get?_insert_self _ _ _),
    Dict.get?_insert_self _ _ _⟩

theorem serves_neighbouring {s : Service} (configMaps : Shelf ConfigMap) (h : s.key ≠ api.key) :
    (neighbouring s configMaps).Serves fun t => t.key = s.key ∨ t.key = api.key where
  works := rfl
  stored t ht := by
    obtain ⟨hs, hapi⟩ := get?_services_neighbouring configMaps h
    rcases ht with hkey | hkey
    · rw [hkey, hs]
      rfl
    · rw [hkey, hapi]
      rfl

/-- The neighbour without the wish to be exposed. -/
def privateApi : Service := { api with metadata.labels := none }

/-- Two services are listed. The neighbour ceases to be exposed, and the other is deleted and comes
again. A second list has the neighbour only, with its wish, and then the other comes once more. -/
def comingsAndGoings : List WatchEvent :=
  [.init, .initApply web, .initApply api, .initDone, .apply privateApi, .delete web, .apply web,
    .init, .initApply api, .initDone, .apply web]

theorem shown_comingsAndGoings :
    comingsAndGoings.filterMap WatchEvent.object? = [web, api, privateApi, web, web, api, web] :=
  rfl

theorem tracked_comingsAndGoings :
    (Tracker.processAll {} comingsAndGoings).2.services = .ofList [web, api] := by decide

theorem succeeds_comingsAndGoings :
    Watching.Succeeds reconciler { cluster := neighbouring web ∅ }
      (comingsAndGoings.map .event) := by
  have hkeys : ∀ s ∈ [web, api, privateApi, web, web, api, web],
      s.key = web.key ∨ s.key = api.key := by decide
  refine Watching.succeeds_of_serves (serves_neighbouring ∅ (by decide)) (fun key s hs => ?_)
    fun event hmem s hs => ?_
  · cases hs
  · exact hkeys s (shown_comingsAndGoings ▸ List.mem_filterMap.2 ⟨event, hmem, hs⟩)

/-- Services that are spoken of under different keys have different application names. -/
theorem apart_comingsAndGoings (s t : Service) (hs : Watching.Shows (comingsAndGoings.map .event) s)
    (ht : Watching.Shows (comingsAndGoings.map .event) t) (hname : s.appName = t.appName) :
    s.key = t.key := by
  rw [Watching.shows_map_event_iff, shown_comingsAndGoings] at hs ht
  have hapart : ∀ s ∈ [web, api, privateApi, web, web, api, web],
      ∀ t ∈ [web, api, privateApi, web, web, api, web],
      s.appName = t.appName → s.key = t.key := by decide
  exact hapart s hs t ht hname

end Sample

/-- Where the cluster has no ingresses at first and others make none, all notifications are handled
without a failure and no two services of a namespace have one application name, every service that
is remembered in the end, is exposed, is allowed and has ports has a path of its own in the first
rule of its ingress, and that is the path which it is placed at. -/
theorem routing_follows {r : Reconciler} {st : IngressStrategy} {c : Cluster}
    {happenings : List Happening} (hst : r.strategy = .ingress st) (hempty : c.ingresses = ∅)
    (hquiet : ∀ happening ∈ happenings, happening.LeavesIngresses)
    (hsucceeds : Watching.Succeeds r { cluster := c } happenings)
    (hapart : ∀ s t, Watching.Shows happenings s → Watching.Shows happenings t →
      s.key.inNamespace = t.key.inNamespace → s.appName = t.appName → s.key = t.key) :
    let last := Watching.after r { cluster := c } happenings
    ∀ key s, last.watch.tracker.services.get? key = some s → s.isExposed → r.allows s.name →
      s.ports ≠ [] →
      ∃ host p, last.cluster.FirstLeadsTo ⟨s.key.inNamespace, s.appName⟩ host p ∧
        p.backend.service.map (·.name) = some s.name ∧ p.path = (st.place s).path := by
  intro last key s hs hexposed hallows hports
  have hstart : Watching.Follows r st (Watching.Shows happenings) { cluster := c } :=
    { plain := fun key p hp => absurd (hempty ▸ hp) List.not_mem_nil
      known := fun key s hs => absurd hs (by simp)
      placed := fun key s hs => absurd hs (by simp) }
  have hend : Watching.Follows r st (Watching.Shows happenings) last := by
    refine hstart.after hst (fun s t hs ht hhome => ?_) hquiet (fun _ hs => hs) hsucceeds
    obtain ⟨hns, hname⟩ := ObjectKey.mk.inj hhome
    exact hapart s t hs ht hns hname
  obtain ⟨host, p, hp, hbinding⟩ :=
    Cluster.firstLeadsTo_of_isPlaced hend.plain (hend.placed key s hs hexposed hallows hports)
  exact ⟨host, p, hp, congrArg Binding.service hbinding, congrArg Binding.path hbinding⟩

open Sample in
/-- Two services are exposed and withdrawn, deleted and listed anew, and both have their paths in
the end. -/
theorem routing_follows_web :
    let last :=
      Watching.after reconciler { cluster := neighbouring web ∅ } (comingsAndGoings.map .event)
    (∃ host p, last.cluster.FirstLeadsTo ⟨"ns1", "web"⟩ host p ∧
      p.backend.service.map (·.name) = some "web" ∧
      p.path = none) ∧
    ∃ host p, last.cluster.FirstLeadsTo ⟨"ns1", "shared"⟩ host p ∧
      p.backend.service.map (·.name) = some "api" ∧
      p.path = none := by
  have hquiet : ∀ happening ∈ comingsAndGoings.map Happening.event, happening.LeavesIngresses := by
    intro happening hmem
    obtain ⟨event, -, rfl⟩ := List.mem_map.1 hmem
    exact True.intro
  have hfollows :=
    routing_follows (c := neighbouring web ∅) (r := reconciler) rfl rfl hquiet
      succeeds_comingsAndGoings
    fun s t hs ht _ => apart_comingsAndGoings s t hs ht
  simp only [Watching.tracker_after, tracked_comingsAndGoings] at hfollows
  have hweb : (Shelf.ofList [web, api]).get? web.key = some web := by decide
  have hapi : (Shelf.ofList [web, api]).get? api.key = some api := by decide
  obtain ⟨host, p, hp, hservice, hpath⟩ :=
    hfollows web.key web hweb isExposed_web rfl (List.cons_ne_nil _ _)
  obtain ⟨host', p', hp', hservice', hpath'⟩ :=
    hfollows api.key api hapi isExposed_api rfl (List.cons_ne_nil _ _)
  have hname : web.appName = "web" := by decide
  have hname' : api.appName = "shared" := by decide
  have hplace : (strategy.place web).path = none := by decide
  have hplace' : (strategy.place api).path = none := by decide
  exact ⟨⟨host, p, hname ▸ hp, hservice, hpath.trans hplace⟩, host', p', hname' ▸ hp', hservice',
    hpath'.trans hplace'⟩

end ServiceExposure
