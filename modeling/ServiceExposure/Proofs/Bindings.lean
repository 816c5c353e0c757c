import ServiceExposure.Proofs.IngressAgreement

/-! # Bindings accumulate

Services with the same application name share an ingress. When services are exposed one after the
other, each gets a path of that ingress unless it has it already, next to those of the others. So
the paths of an ingress come to be just those that its services were placed at, each once, in one
rule. -/

namespace ServiceExposure

/-! ## Bindings -/

/-- A service by its name, and the path that leads to it. -/
structure Binding where
  service : Option String
  path : Option String
deriving DecidableEq, Repr

def IngressPath.binding (p : IngressPath) : Binding := ⟨p.backend.service.map (·.name), p.path⟩

/-- An ingress with one rule, which has one path for each of the bindings that are wanted and no
other, and with owners that differ in their uids. -/
structure Ingress.Binds (i : Ingress) (wanted : Binding → Prop) : Prop where
  rule : ∃ rule, i.rules = [rule] ∧ (rule.paths.map (·.binding)).Nodup ∧
    ∀ b, b ∈ rule.paths.map (·.binding) ↔ wanted b
  owners : ((i.metadata.ownerReferences.getD []).map (·.uid)).Nodup

/-- Marks keep owners apart. -/
theorem Metadata.nodup_owners_markedFor {m : Metadata}
    (h : ((m.ownerReferences.getD []).map (·.uid)).Nodup) (s : Service) :
    (((m.markedFor s).ownerReferences.getD []).map (·.uid)).Nodup := by
  simp only [markedFor, Option.getD_some]
  split
  · exact h
  · next hnew =>
    rw [List.map_append, List.nodup_append]
    refine ⟨h, by simp, ?_⟩
    rintro uid huid other hother rfl
    obtain ⟨owner, howner, rfl⟩ := List.mem_map.1 huid
    refine hnew (List.any_eq_true.2 ⟨owner, howner, ?_⟩)
    exact decide_eq_true (List.mem_singleton.1 hother)

namespace IngressStrategy

variable {st : IngressStrategy} {s : Service} {added : List Service} {name : String}
  {existing : Option Ingress}

/-- The binding that a strategy places a service at. -/
def bindingOf (st : IngressStrategy) (s : Service) : Binding := ⟨some s.name, (st.place s).path⟩

theorem isBound_of_binding {p : IngressPath} (h : p.binding = st.bindingOf s) :
    isBound s.name (st.place s).path p := by
  obtain ⟨hservice, hpath⟩ := Binding.mk.inj h
  simp [isBound, hservice, hpath, nonEmpty?_path_place]

/-- A path that is not empty text leads to a service just if it has the binding. -/
theorem binding_of_isBound {p : IngressPath} (hpath : nonEmpty? p.path = p.path)
    (h : isBound s.name (st.place s).path p) : p.binding = st.bindingOf s := by
  simp only [isBound, Bool.and_eq_true, decide_eq_true_eq, hpath] at h
  rw [IngressPath.binding, bindingOf, h.1, h.2]

theorem boundPaths_of_rules {i : Ingress} {rule : IngressRule} {rules : List IngressRule}
    (h : i.rules = rule :: rules) :
    boundPaths (some i) = rule.paths := by
  simp [boundPaths, h]

/-! ## The bindings of an application -/

/-- The bindings that services of an application were placed at. -/
def Wants (st : IngressStrategy) (added : List Service) (name : String) (b : Binding) : Prop :=
  ∃ s ∈ added, s.appName = name ∧ st.bindingOf s = b

/-- Whether the ingress of an application has just the bindings of its services. Without services
there is no ingress. -/
def Accumulates (st : IngressStrategy) (added : List Service) (name : String) :
    Option Ingress → Prop
  | none => ∀ s ∈ added, s.appName ≠ name
  | some i => i.Binds (st.Wants added name)

theorem wants_cons {b : Binding} :
    st.Wants (s :: added) name b ↔
    (s.appName = name ∧ st.bindingOf s = b) ∨ st.Wants added name b := by
  simp only [Wants, List.mem_cons, exists_eq_or_imp]

/-- The services of another application do not matter. -/
theorem Accumulates.of_ne (h : st.Accumulates added name existing) (hname : s.appName ≠ name) :
    st.Accumulates (s :: added) name existing := by
  cases existing with
  | none => exact List.forall_mem_cons.2 ⟨hname, h⟩
  | some i =>
    have hsame : st.Wants (s :: added) name = st.Wants added name := by
      funext b
      simp only [wants_cons, hname, false_and, false_or]
    rw [Accumulates, hsame]
    exact h

/-- What the first rule has, whether there is an ingress or not. -/
theorem Accumulates.boundPaths (h : st.Accumulates added name existing) :
    ((boundPaths existing).map (·.binding)).Nodup ∧
      ∀ b, b ∈ (IngressStrategy.boundPaths existing).map (·.binding) ↔ st.Wants added name b := by
  cases existing with
  | none =>
    refine ⟨List.nodup_nil, fun b => iff_of_false List.not_mem_nil ?_⟩
    rintro ⟨s, hs, hname, -⟩
    exact h s hs hname
  | some i =>
    obtain ⟨rule, hrules, hdistinct, hexact⟩ := h.rule
    rw [boundPaths_of_rules hrules]
    exact ⟨hdistinct, hexact⟩

/-- A service that is bound to its path already adds no binding. -/
theorem Accumulates.of_isBound (h : st.Accumulates added name existing)
    (hbound : (IngressStrategy.boundPaths existing).any (isBound s.name (st.place s).path)) :
    st.Accumulates (s :: added) name existing := by
  obtain ⟨p, hp, hbound⟩ := List.any_eq_true.1 hbound
  have hwanted : st.Wants added name p.binding := (h.boundPaths.2 _).1 (List.mem_map_of_mem hp)
  -- the path is one that some service was placed at, so it is not empty text
  have hpath : nonEmpty? p.path = p.path := by
    obtain ⟨other, -, -, hother⟩ := hwanted
    rw [show p.path = (st.place other).path from congrArg Binding.path hother.symm]
    exact nonEmpty?_path_place st other
  rw [binding_of_isBound hpath hbound] at hwanted
  cases existing with
  | none => exact absurd hp List.not_mem_nil
  | some i =>
    have hsame : st.Wants (s :: added) name = st.Wants added name := by
      funext b
      refine propext (wants_cons.trans (or_iff_right_of_imp ?_))
      rintro ⟨-, rfl⟩
      exact hwanted
    rw [Accumulates, hsame]
    exact h

/-- The ingress that is made for a service has its binding and those that were there. -/
theorem Accumulates.ingressFor (h : st.Accumulates added s.appName existing)
    (hbound : ¬(IngressStrategy.boundPaths existing).any (isBound s.name (st.place s).path))
    (port : Int32) :
    st.Accumulates (s :: added) s.appName (some (st.ingressFor s existing port)) where
  rule := by
    obtain ⟨hdistinct, hexact⟩ := h.boundPaths
    refine ⟨_, rfl, List.nodup_cons.2 ⟨fun hmem => hbound ?_, hdistinct⟩, fun b => ?_⟩
    · obtain ⟨p, hp, hbinding⟩ := List.mem_map.1 hmem
      exact List.any_eq_true.2 ⟨p, hp, isBound_of_binding hbinding⟩
    · rw [wants_cons, ← hexact b]
      refine List.mem_cons.trans (or_congr_left ?_)
      rw [eq_comm, and_iff_right rfl]
      rfl
  owners := by
    refine Metadata.nodup_owners_markedFor ?_ s
    cases existing with
    | none => exact List.nodup_nil
    | some i => exact h.owners

end IngressStrategy

/-! ## One service after the other -/

/-- A cluster, and the services that could be exposed in it, the last one first. -/
structure Additions where
  cluster : Cluster
  added : List Service := []

namespace IngressStrategy

variable {st : IngressStrategy} {s : Service} {state : Additions}

/-- Exposes a service as far as ingresses go. One that cannot be exposed changes nothing. -/
def addNext (st : IngressStrategy) (state : Additions) (s : Service) : Except Cause Additions :=
  match st.add s (state.cluster.snapshot (.ingress st) s.key.inNamespace) with
  | .ok e => do
    let cluster ← state.cluster.effects (e.writes.filter (·.kind = .ingress))
    return { cluster, added := s :: state.added }
  | .error _ => .ok state

def addAll (st : IngressStrategy) (state : Additions) (services : List Service) :
    Except Cause Additions :=
  services.foldlM st.addNext state

/-- The ingress writes of an exposure are those for its routing. -/
theorem filter_writes {snapshot : Snapshot} {ws : List Write}
    (h : st.routingWrites s snapshot = .ok ws) (desired : Service) :
    (Exposure.of s desired ws).writes.filter (·.kind = .ingress) = ws := by
  have hrouting : (Strategy.ingress st).routing s snapshot = .ok ws := h
  have hpatch : (((Exposure.servicePatch? s desired).map (Write.patchService s.key)).toList).filter
      (·.kind = .ingress) = [] := by
    cases Exposure.servicePatch? s desired <;> rfl
  rw [Exposure.of, List.filter_append, hpatch, List.append_nil, List.filter_eq_self]
  intro w hw
  have hkind := Option.some.inj (Strategy.kind_routing hrouting w hw)
  exact decide_eq_true hkind.symm

/-- To expose a service fails, or finds it on its path, or writes its ingress. -/
theorem addNext_cases (st : IngressStrategy) (s : Service) : st.addNext state s = .ok state ∨
    (st.IsPlaced s state.cluster ∧
      st.addNext state s = .ok { state with added := s :: state.added }) ∨
    ¬st.IsPlaced s state.cluster ∧ ∃ port, st.addNext state s = .ok {
      cluster :=
        state.cluster.putIngress (st.ingressFor s (state.cluster.ingresses.get? s.home) port)
      added := s :: state.added } := by
  rw [addNext, add]
  cases hrouting : st.routingWrites s (state.cluster.snapshot (.ingress st) s.key.inNamespace) with
  | error failure => exact .inl rfl
  | ok ws =>
    refine .inr ?_
    simp only [bind, Except.bind, pure, Except.pure, filter_writes hrouting]
    rcases Strategy.effects_ingress_routing hrouting
      with ⟨hplaced, rfl⟩ | ⟨hplaced, port, -, heffects⟩
    · exact .inl ⟨hplaced, rfl⟩
    · rw [heffects]
      exact .inr ⟨hplaced, port, rfl⟩

/-- A service more keeps ingresses and services in step. -/
theorem addNext_accumulates {ns : String} (hns : s.key.inNamespace = ns)
    (h : ∀ name, st.Accumulates state.added name (state.cluster.ingresses.get? ⟨ns, name⟩)) :
    ∃ next, st.addNext state s = .ok next ∧
      ∀ name, st.Accumulates next.added name (next.cluster.ingresses.get? ⟨ns, name⟩) := by
  have hhome : s.home = ⟨ns, s.appName⟩ := by rw [Service.home, hns]
  rcases addNext_cases st s with hfailed | ⟨hplaced, hnext⟩ | ⟨hplaced, port, hnext⟩
  · exact ⟨state, hfailed, h⟩
  · refine ⟨_, hnext, fun name => ?_⟩
    by_cases hname : s.appName = name
    · subst hname
      rw [IsPlaced, hhome] at hplaced
      exact (h s.appName).of_isBound hplaced
    · exact (h name).of_ne hname
  · refine ⟨_, hnext, fun name => ?_⟩
    have hkey := state.cluster.key_ingressFor st s port
    simp only [Cluster.putIngress]
    rw [hhome] at hkey ⊢
    by_cases hname : s.appName = name
    · subst hname
      rw [Shelf.get?_put_of_eq _ hkey]
      rw [IsPlaced, hhome] at hplaced
      exact (h s.appName).ingressFor hplaced port
    · rw [Shelf.get?_put_of_ne _ fun heq => hname (congrArg ObjectKey.name (hkey.symm.trans heq))]
      exact (h name).of_ne hname

theorem addAll_accumulates {ns : String} {services : List Service}
    (hns : ∀ s ∈ services, s.key.inNamespace = ns)
    (h : ∀ name, st.Accumulates state.added name (state.cluster.ingresses.get? ⟨ns, name⟩)) :
    ∃ last, st.addAll state services = .ok last ∧
      ∀ name, st.Accumulates last.added name (last.cluster.ingresses.get? ⟨ns, name⟩) := by
  -- on the services; those that were exposed so far go with the ingresses that they have by then
  induction services generalizing state with
  | nil => exact ⟨state, rfl, h⟩
  | cons s services ih =>
    obtain ⟨next, hnext, h'⟩ := addNext_accumulates (hns s List.mem_cons_self) h
    obtain ⟨last, hlast, hend⟩ := ih (fun s hs => hns s (List.mem_cons_of_mem _ hs)) h'
    refine ⟨last, ?_, hend⟩
    rw [addAll, List.foldlM_cons, hnext]
    exact hlast

end IngressStrategy

namespace Sample

/-- Two services of one application, the first of which is exposed twice. -/
def companions : List Service := [api, annotated Annotation.ingressName "shared", api]

theorem added_companions :
    (strategy.addAll { cluster } companions).toOption.map (·.added) = some companions := by
  decide +kernel

end Sample

/-! ## Accumulation -/

/-- Whatever services of a namespace without ingresses are exposed one after the other, each ingress
ends with just one path for each of the bindings that those of its application were placed at which
could be exposed, in one rule, and with no two owners of one uid; and an application has no ingress
only if none of its services could be exposed. -/
theorem bindings_accumulate {st : IngressStrategy} {c : Cluster} {ns : String}
    {services : List Service} (hnone : ∀ name, c.ingresses.get? ⟨ns, name⟩ = none)
    (hns : ∀ s ∈ services, s.key.inNamespace = ns) :
    ∃ last, st.addAll { cluster := c } services = .ok last ∧ ∀ name,
      (last.cluster.ingresses.get? ⟨ns, name⟩ = none → ∀ s ∈ last.added, s.appName ≠ name) ∧
      ∀ i, last.cluster.ingresses.get? ⟨ns, name⟩ = some i →
        i.Binds fun b => ∃ s ∈ last.added, s.appName = name ∧ st.bindingOf s = b := by
  have hstart (name : String) : st.Accumulates [] name (c.ingresses.get? ⟨ns, name⟩) := by
    rw [hnone]
    exact fun _ hs => absurd hs List.not_mem_nil
  obtain ⟨last, hlast, hend⟩ :=
    @IngressStrategy.addAll_accumulates st { cluster := c } ns services hns hstart
  refine ⟨last, hlast, fun name => ?_⟩
  have hname := hend name
  refine ⟨fun hget => ?_, fun i hget => ?_⟩
  · rwa [hget] at hname
  · rwa [hget] at hname

open Sample in
/-- The services share an ingress, which has a path for each. -/
theorem bindings_accumulate_companions :
    ∃ last i, strategy.addAll { cluster } companions = .ok last ∧
    last.cluster.ingresses.get? ⟨"ns1", "shared"⟩ = some i ∧
    i.Binds fun b => b = ⟨some "api", none⟩ ∨ b = ⟨some "web", none⟩ := by
  obtain ⟨last, hlast, hend⟩ := @bindings_accumulate strategy cluster "ns1" companions
    (fun _ => rfl) (by decide)
  have hadded := added_companions
  rw [hlast] at hadded
  have hadded : last.added = companions := Option.some.inj hadded
  rw [hadded] at hend
  obtain ⟨hnone, hsome⟩ := hend "shared"
  have hname : ∀ s ∈ companions, s.appName = "shared" := by decide
  have hbindings : companions.map strategy.bindingOf = [⟨some "api", none⟩, ⟨some "web", none⟩,
      ⟨some "api", none⟩] := by
    decide
  have hwanted (b : Binding) : (∃ s ∈ companions, s.appName = "shared" ∧ strategy.bindingOf s = b) ↔
      b = ⟨some "api", none⟩ ∨ b = ⟨some "web", none⟩ := by
    have hmem : b ∈ companions.map strategy.bindingOf ↔
        b = ⟨some "api", none⟩ ∨ b = ⟨some "web", none⟩ := by
      rw [hbindings]
      grind
    rw [← hmem, List.mem_map]
    exact exists_congr fun s => and_congr_right fun hs => and_iff_right (hname s hs)
  cases hget : last.cluster.ingresses.get? ⟨"ns1", "shared"⟩ with
  | none => exact absurd (hname api List.mem_cons_self) (hnone hget api List.mem_cons_self)
  | some i => exact ⟨last, i, hlast, hget, funext (fun b => propext (hwanted b)) ▸ hsome i hget⟩

end ServiceExposure
