import ServiceExposure.Proofs.Confinement

/-! # Rolling

A configuration map rolls the deployments that list it, as far as one of their containers lacks its
fingerprint. In each of their containers the first variable of its name gets the fingerprint, and
all else stays. Once they have it, they are not rolled again. -/

namespace ServiceExposure

namespace Rollout

/-! ## Environments -/

/-- Whether an environment lacks a variable with the value. Only the first variable of the name
counts. -/
def Stale (name value : String) (env : List EnvVar) : Prop :=
  ∀ e, env.find? (·.name = name) = some e → e.value ≠ some value

/-- An environment, and what becomes of it where a variable is to have a value. -/
inductive Stamped (name value : String) : List EnvVar → List EnvVar → Prop
  /-- The first variable of the name has the value. -/
  | kept {before after : List EnvVar} {e : EnvVar} (first : ∀ other ∈ before, other.name ≠ name)
      (named : e.name = name) (same : e.value = some value) :
      Stamped name value (before ++ e :: after) (before ++ e :: after)
  /-- The first variable of the name has another value, or takes it from elsewhere. -/
  | replaced {before after : List EnvVar} {e : EnvVar} (first : ∀ other ∈ before, other.name ≠ name)
      (named : e.name = name) (stale : e.value ≠ some value) :
      Stamped name value (before ++ e :: after)
        (before ++ { e with value := some value, valueFrom := none } :: after)
  /-- There is no variable of the name. -/
  | added {env : List EnvVar} (missing : ∀ other ∈ env, other.name ≠ name) :
      Stamped name value env (env ++ [{ name, value := some value }])

variable {name value : String} {env env' before after : List EnvVar} {e : EnvVar}

theorem find?_of_first (first : ∀ other ∈ before, other.name ≠ name) (named : e.name = name) :
    (before ++ e :: after).find? (·.name = name) = some e :=
  List.find?_eq_some_iff_append.2 ⟨by simpa using named, before, after, rfl, by simpa using first⟩

theorem stale_iff_of_first (first : ∀ other ∈ before, other.name ≠ name) (named : e.name = name) :
    Stale name value (before ++ e :: after) ↔ e.value ≠ some value := by
  rw [Stale, find?_of_first first named]
  simp

theorem stale_of_missing (missing : ∀ other ∈ env, other.name ≠ name) : Stale name value env := by
  intro e he
  have hnamed : e.name = name := by simpa using List.find?_some he
  exact absurd hnamed (missing e (List.mem_of_find?_eq_some he))

namespace Stamped

/-- Variables of other names may stand in front. -/
theorem cons (hother : e.name ≠ name) (h : Stamped name value env env') :
    Stamped name value (e :: env) (e :: env') := by
  have hall {before : List EnvVar} (first : ∀ other ∈ before, other.name ≠ name) :
      ∀ other ∈ e :: before, other.name ≠ name := List.forall_mem_cons.2 ⟨hother, first⟩
  cases h with
  | kept first named same => exact .kept (hall first) named same
  | replaced first named stale => exact .replaced (hall first) named stale
  | added missing => exact .added (hall missing)

/-- Nothing changes just where nothing is stale. -/
theorem eq_iff (h : Stamped name value env env') : env' = env ↔ ¬Stale name value env := by
  cases h with
  | kept first named same => simp [stale_iff_of_first first named, same]
  | @replaced before after e first named stale =>
    have hne : { e with value := some value, valueFrom := none } ≠ e :=
      fun h => stale (congrArg EnvVar.value h).symm
    simp [stale_iff_of_first first named, stale, hne]
  | added missing => simp [stale_of_missing missing]

/-- Once a variable has a value, it lacks just the others. -/
theorem stale_iff {other : String} (h : Stamped name value env env') :
    Stale name other env' ↔ value ≠ other := by
  cases h with
  | kept first named same => simp [stale_iff_of_first first named, same]
  | @replaced before after e first named stale =>
    have hnamed : ({ e with value := some value, valueFrom := none } : EnvVar).name = name := named
    simp [stale_iff_of_first first hnamed]
  | added missing => simp [stale_iff_of_first missing]

end Stamped

theorem stamped_setVariable (name value : String) (env : List EnvVar) :
    Stamped name value env (setVariable name value env) := by
  have hfirst : ∀ other ∈ ([] : List EnvVar), other.name ≠ name := by simp
  induction env with
  | nil => exact .added hfirst
  | cons e env ih =>
    rw [setVariable]
    split
    · next named =>
      split
      · next same => exact .kept hfirst named same
      · next stale => exact .replaced hfirst named stale
    · next hother => exact ih.cons hother

/-! ## Containers -/

/-- A container, and what becomes of it: its environment is stamped, and nothing else changes. -/
def StampedContainer (name value : String) (c c' : Container) : Prop :=
  ∃ env, Stamped name value (c.env.getD []) env ∧ c' = { c with env := some env }

theorem stampedContainer_stampContainer (name value : String) (c : Container) :
    StampedContainer name value c (stampContainer name value c) :=
  ⟨_, stamped_setVariable name value _, rfl⟩

/-- A container stays as it is just where it is not stale. -/
theorem stampContainer_eq_self_iff {c : Container} :
    stampContainer name value c = c ↔ ¬Stale name value (c.env.getD []) := by
  rw [← (stamped_setVariable name value (c.env.getD [])).eq_iff]
  obtain ⟨cname, image, command, env, ports, resources⟩ := c
  cases env with
  -- a container without an environment gets one
  | none => simp [stampContainer, setVariable]
  | some env => simp [stampContainer]

theorem stampContainer_again (name value : String) (c : Container) :
    stampContainer name value (stampContainer name value c) = stampContainer name value c :=
  stampContainer_eq_self_iff.2 fun hstale =>
    (stamped_setVariable name value _).stale_iff.1 hstale rfl

/-! ## Deployments -/

/-- The configuration maps on whose change a deployment restarts: between commas, without the blanks
around them. -/
def updateList (d : Deployment) : List String :=
  ((d.metadata.annotation? Annotation.updateOnChange).map fun names =>
    (Text.split ',' names).map Text.trim).getD []

theorem dependsOn_iff {d : Deployment} {configMap : String} :
    dependsOn d configMap ↔ configMap ∈ updateList d := by
  rw [dependsOn, updateList]
  cases d.metadata.annotation? Annotation.updateOnChange <;> simp

end Rollout

theorem Deployment.mapContainers_eq_self_iff {d : Deployment} {f : Container → Container} :
    d.mapContainers f = d ↔ ∀ c ∈ d.containers, f c = c := by
  constructor
  · intro h
    have hmap : d.containers.map f = d.containers.map id := by
      rw [← containers_mapContainers, h, List.map_id]
    exact List.map_inj_left.1 hmap
  · intro h
    have hmap : d.containers.map f = d.containers := (List.map_congr_left h).trans (List.map_id _)
    obtain ⟨metadata, spec⟩ := d
    cases spec with
    | none => rfl
    | some spec =>
      obtain ⟨replicas, selector, templateMetadata, pods⟩ := spec
      cases pods with
      | none => rfl
      | some pods =>
        simp only [containers, Option.bind_some, Option.map_some, Option.getD_some] at hmap
        simp only [mapContainers, Option.map_some, hmap]

namespace Rollout

variable {m : ConfigMap} {d : Deployment} {ds : Dict String Deployment}

/-- A configuration map reaches the deployments that list it and have a container without its
fingerprint. -/
def Reaches (m : ConfigMap) (d : Deployment) : Prop :=
  m.metadata.displayName ∈ updateList d ∧ ∃ c ∈ d.containers,
    Stale (variableOf m) m.fingerprint (c.env.getD [])

theorem stamp_eq_self_iff : stamp m d = d ↔ ¬Reaches m d := by
  rw [stamp, Reaches]
  split
  · next hdepends =>
    rw [← variableOf, Deployment.mapContainers_eq_self_iff]
    simp only [stampContainer_eq_self_iff, dependsOn_iff.1 hdepends, true_and, not_exists, not_and]
  · next hdepends => simp [mt dependsOn_iff.2 hdepends]

theorem stamp_again (m : ConfigMap) (d : Deployment) : stamp m (stamp m d) = stamp m d := by
  rw [stamp, dependsOn_stamp]
  split
  · next hdepends =>
    rw [stamp, if_pos hdepends, Deployment.mapContainers_mapContainers]
    exact congrArg (Deployment.mapContainers · d) (funext (stampContainer_again _ _))
  · rfl

theorem mem_rolled {name : String} :
    name ∈ rolled m ds ↔ ∃ d, ds.get? name = some d ∧ Reaches m d := by
  have hchanges (d : Deployment) : stamp m d ≠ d ↔ Reaches m d := by
    rw [Ne, stamp_eq_self_iff, not_not]
  simp only [rolled, List.mem_map, List.mem_filter, Prod.exists, Dict.mem_toList_iff,
    decide_eq_true_eq, hchanges]
  constructor
  · rintro ⟨name, d, ⟨hd, hreaches⟩, rfl⟩
    exact ⟨d, hd, hreaches⟩
  · rintro ⟨d, hd, hreaches⟩
    exact ⟨name, d, ⟨hd, hreaches⟩, rfl⟩

/-- Names are rolled in their order, each once. -/
theorem pairwise_rolled (m : ConfigMap) (ds : Dict String Deployment) :
    (rolled m ds).Pairwise (· < ·) := by
  rw [rolled, List.pairwise_map]
  exact (ds.ascending.filter _).imp fun h => of_decide_eq_true h

theorem get?_roll (m : ConfigMap) (ds : Dict String Deployment) (name : String) :
    (roll m ds).get? name = (ds.get? name).map (stamp m) := Dict.get?_map ds _ name

theorem rolled_again (m : ConfigMap) (ds : Dict String Deployment) : rolled m (roll m ds) = [] := by
  refine List.eq_nil_iff_forall_not_mem.2 fun name hname => ?_
  obtain ⟨d, hd, hreaches⟩ := mem_rolled.1 hname
  rw [get?_roll] at hd
  obtain ⟨old, -, rfl⟩ := Option.map_eq_some_iff.1 hd
  exact stamp_eq_self_iff.1 (stamp_again m old) hreaches

end Rollout

/-! ## A deployment with stale variables -/

namespace Sample

/-- A deployment that lists two configuration maps. Of its containers one has an older fingerprint,
and one has none. -/
def notebook : Deployment where
  metadata := {
    name := some "notebook"
    inNamespace := some "ns1"
    annotations := some (.insert ∅ Annotation.updateOnChange "app, web-config") }
  spec := some { template := { spec := some { containers := [
    { name := "app", env := some [
      { name := "PATH", value := some "/bin" },
      { name := "FABRIC8_WEB_CONFIG_CONFIGMAP", value := some "first=" },
      -- only the first variable of a name counts
      { name := "FABRIC8_WEB_CONFIG_CONFIGMAP", value := some "first=http" }] },
    { name := "worker" }] } } }

/-- The deployment, next to one that lists nothing. -/
def notebooks : Dict String Deployment :=
  (Dict.insert ∅ "notebook" notebook).insert "scratch"
    { notebook with metadata.annotations := none }

end Sample

/-! ## Dependents -/

open Rollout

/-- A configuration map rolls the deployments that list it and have a container without its
fingerprint, each once. The others stay as they are. In those that are rolled only environments
change, by one variable each. When the map is rolled again, it rolls none. -/
theorem rolls_exactly_dependents (m : ConfigMap) (ds : Dict String Deployment) :
    (rolled m ds).Pairwise (· < ·) ∧
    (∀ name, name ∈ rolled m ds ↔
      ∃ d, ds.get? name = some d ∧ m.metadata.displayName ∈ updateList d ∧
      ∃ c ∈ d.containers, Stale (variableOf m) m.fingerprint (c.env.getD [])) ∧
    (∀ name ∉ rolled m ds, (roll m ds).get? name = ds.get? name) ∧
    (∀ name ∈ rolled m ds, ∃ d f, ds.get? name = some d ∧
      (roll m ds).get? name = some (d.mapContainers f) ∧
      ∀ c ∈ d.containers, StampedContainer (variableOf m) m.fingerprint c (f c)) ∧
    rolled m (roll m ds) = [] := by
  refine ⟨pairwise_rolled m ds, fun name => mem_rolled, fun name hname => ?_, fun name hname => ?_,
    rolled_again m ds⟩
  · rw [get?_roll]
    cases hd : ds.get? name with
    | none => rfl
    | some d =>
      have hstays : ¬Reaches m d := fun hreaches => hname (mem_rolled.2 ⟨d, hd, hreaches⟩)
      exact congrArg some (stamp_eq_self_iff.2 hstays)
  · obtain ⟨d, hd, hreaches⟩ := mem_rolled.1 hname
    have hdepends : dependsOn d m.metadata.displayName := dependsOn_iff.2 hreaches.1
    refine ⟨d, stampContainer (variableOf m) m.fingerprint, hd, ?_,
      fun c _ => stampedContainer_stampContainer _ _ c⟩
    rw [get?_roll, hd, Option.map_some, stamp, if_pos hdepends]
    rfl

open Sample in
/-- The deployment that lists the map is rolled once, the other one never. -/
theorem rolls_exactly_dependents_notebooks :
    "notebook" ∈ rolled (answered "web-config" "first") notebooks ∧
      "scratch" ∉ rolled (answered "web-config" "first") notebooks ∧
      (roll (answered "web-config" "first") notebooks).get? "scratch" = notebooks.get? "scratch" ∧
      rolled (answered "web-config" "first") (roll (answered "web-config" "first") notebooks) =
        [] := by
  obtain ⟨-, hrolled, hothers, -, hagain⟩ :=
    rolls_exactly_dependents (answered "web-config" "first") notebooks
  have hnotebook : notebooks.get? "notebook" = some notebook := by decide
  have hscratch : "scratch" ∉ rolled (answered "web-config" "first") notebooks := by
    intro hmem
    obtain ⟨d, hd, hlisted, -⟩ := (hrolled "scratch").1 hmem
    obtain rfl : { notebook with metadata.annotations := none } = d := Option.some.inj hd
    exact absurd hlisted (by decide)
  refine ⟨(hrolled "notebook").2 ⟨notebook, hnotebook, by decide, _, List.mem_cons_self,
    fun e he => ?_⟩, hscratch, hothers "scratch" hscratch, hagain⟩
  obtain rfl := Option.some.inj he
  decide

end ServiceExposure
