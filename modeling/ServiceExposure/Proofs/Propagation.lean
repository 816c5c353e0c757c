import ServiceExposure.Proofs.Edits
import ServiceExposure.Proofs.Namespace

/-! # Propagation settles

The address of a service is carried into the configuration maps of its namespace in place
(`Cluster.propagated`), and from there into the deployments. The same address carried once more
finds nothing to change. -/

namespace ServiceExposure

namespace Propagation

open Edit

/-! ## Edits are in order -/

/-- The line rules of a service. -/
def lineRules (s : Service) : List LineRule :=
  ((s.setting? Annotation.configYaml).bind LineRule.listOfYaml?).getD []

/-- No line rule of the service has a line feed in its ending or in the value that it puts in. -/
def StaysOnLines (settings : Settings) (s : Service) : Prop :=
  ∀ rule ∈ lineRules s, '\n' ∉ rule.ending.toList ∧ ∀ url ∈ s.exposedUrl?,
    ∀ value ∈ expressionValue? settings url rule.expression, '\n' ∉ value.toList

theorem staysOnLines_of_none {s : Service} (h : s.annotation? Annotation.configYaml = none)
    (settings : Settings) :
    StaysOnLines settings s := by
  simp [StaysOnLines, lineRules, Service.setting?, h, nonEmpty?]

theorem lineEdits_eq (settings : Settings) (s : Service) (url : String) :
    lineEdits settings s url =
      (lineRules s).filterMap (LineRule.edit? (expressionValue? settings url)) := by
  rw [lineEdits, lineRules]
  cases s.setting? Annotation.configYaml <;> rfl

/-- A line rule puts a value that is not empty behind its start. -/
theorem exists_rule_of_mem_lineEdits {settings : Settings} {s : Service} {url : String} {e : Edit}
    (h : e ∈ lineEdits settings s url) : ∃ rule ∈ lineRules s, ∃ value,
      expressionValue? settings url rule.expression = some value ∧ value ≠ "" ∧
        e = .lines rule.key rule.start (rule.start ++ value ++ rule.ending) := by
  rw [lineEdits_eq] at h
  obtain ⟨rule, hrule, hedit⟩ := List.mem_filterMap.1 h
  obtain ⟨value, hvalue, hsome⟩ := Option.bind_eq_some_iff.1 hedit
  obtain ⟨hvalue, hne⟩ := nonEmpty?_eq_some_iff.1 hvalue
  split at hsome
  · cases hsome
  · exact ⟨rule, hrule, value, hvalue, hne, (Option.some.inj hsome).symm⟩

theorem prefix_rule (start value ending : String) :
    start.toList <+: (start ++ value ++ ending).toList := by
  simp [String.toList_append, List.append_assoc]

theorem rule_ne_empty {value : String} (hvalue : value ≠ "") (start ending : String) :
    start ++ value ++ ending ≠ "" := by
  intro h
  have hlist := congrArg String.toList h
  simp only [String.toList_append, String.toList_empty, List.append_eq_nil_iff] at hlist
  exact hvalue (String.toList_inj.1 hlist.1.2)

theorem keepsLines_rule {start value ending : String} (hvalue : value ≠ "")
    (hline : '\n' ∉ value.toList) (hending : '\n' ∉ ending.toList) :
    KeepsLines start (start ++ value ++ ending) where
  keeps := prefix_rule start value ending
  ne_empty := rule_ne_empty hvalue start ending
  one_line := by
    by_cases hstart : '\n' ∈ start.toList
    · exact .inl hstart
    · exact .inr (by simp [String.toList_append, hstart, hline, hending])

theorem onLines_lineEdits {settings : Settings} {s : Service} (h : StaysOnLines settings s)
    {url : String} (hurl : s.exposedUrl? = some url) :
    ∀ e ∈ lineEdits settings s url, e.OnLines := by
  intro e he
  obtain ⟨rule, hrule, value, hvalue, hne, rfl⟩ := exists_rule_of_mem_lineEdits he
  exact keepsLines_rule hne ((h rule hrule).2 url hurl value hvalue) (h rule hrule).1

theorem sets_setEach (keys : Option String) (value : String) :
    ∀ e ∈ setEach keys value, e.Sets := by
  intro e he
  obtain ⟨key, -, rfl⟩ := List.mem_map.1 he
  trivial

theorem sets_setDeclared (c : ConfigMap) (requestKey value : String) :
    ∀ e ∈ setDeclared c requestKey value, e.Sets := by
  intro e he
  obtain ⟨key, -, rfl⟩ := List.mem_map.1 he
  trivial

theorem sets_urlEdits (settings : Settings) (service url : String) (c : ConfigMap) :
    ∀ e ∈ urlEdits settings service url c, e.Sets := by
  intro e he
  rcases List.mem_append.1 he with he | he
  · obtain ⟨form, -, he⟩ := List.mem_flatMap.1 he
    split at he
    · exact sets_setEach _ _ e he
    · simp at he
  · exact sets_setEach _ _ e he

theorem sets_clusterEdits (settings : Settings) (c : ConfigMap) :
    ∀ e ∈ clusterEdits settings c, e.Sets := by
  intro e he
  simp only [clusterEdits, List.mem_append] at he
  rcases he with (he | he) | he
  · split at he
    · rcases List.mem_append.1 he with he | he <;> exact sets_setDeclared _ _ _ e he
    · simp at he
  · split at he
    · exact sets_setDeclared _ _ _ e he
    · simp at he
  · exact sets_setDeclared _ _ _ e he

theorem setsOrFills_clusterIPEdits (s : Service) (c : ConfigMap) :
    ∀ e ∈ clusterIPEdits s c, e.SetsOrFills := by
  intro e he
  simp only [clusterIPEdits] at he
  split at he
  · simp at he
  · rcases List.mem_append.1 he with he | he
    · obtain ⟨key, -, rfl⟩ := List.mem_map.1 he
      trivial
    · split at he
      · simp at he
      · rcases List.mem_append.1 he with he | he <;> obtain ⟨key, -, rfl⟩ := List.mem_map.1 he
        · trivial
        · intro h
          simpa [String.toList_append] using congrArg String.toList h

/-- The line rules come last in what the address calls for. -/
theorem addressEdits_eq (settings : Settings) (s : Service) (url : String) (c : ConfigMap) :
    ∃ parts, addressEdits settings s url c = parts ++ lineEdits settings s url ∧
      ∀ e ∈ parts, e.Sets := by
  refine ⟨_, rfl, fun e he => ?_⟩
  rcases List.mem_append.1 he with he | he
  · rcases List.mem_append.1 he with he | he
    · exact sets_setDeclared _ _ _ e he
    · split at he
      · exact sets_setDeclared _ _ _ e he
      · simp at he
  · exact sets_setDeclared _ _ _ e he

theorem setsOrFills_own {settings : Settings} {s : Service} {c : ConfigMap} :
    ∀ e ∈ clusterEdits settings c ++ clusterIPEdits s c, e.SetsOrFills := by
  intro e he
  rcases List.mem_append.1 he with he | he
  · exact Sets.setsOrFills (sets_clusterEdits settings c e he)
  · exact setsOrFills_clusterIPEdits s c e he

/-- Nothing is filled once lines are replaced. -/
theorem inOrder_of_onLines {settings : Settings} {s : Service}
    (h : ∀ url, s.exposedUrl? = some url → ∀ e ∈ lineEdits settings s url, e.OnLines)
    (name : String) (c : ConfigMap) :
    InOrder (edits settings s name c) := by
  cases hurl : s.exposedUrl? with
  | none =>
    by_cases hname : name = s.name
    · exact ⟨clusterEdits settings c ++ clusterIPEdits s c, [], [],
        by simp only [edits, ownEdits, hurl, if_pos hname, List.append_nil],
        setsOrFills_own, by simp, by simp⟩
    · exact ⟨[], [], [], by simp only [edits, hurl, if_neg hname, List.append_nil], by simp,
        by simp, by simp⟩
  | some url =>
    obtain ⟨parts, haddress, hparts⟩ := addressEdits_eq settings s url c
    -- only the map that is named for the service has anything before the URL
    by_cases hname : name = s.name
    · refine ⟨clusterEdits settings c ++ clusterIPEdits s c ++ parts, lineEdits settings s url,
        urlEdits settings s.name url c, ?_, fun e he => ?_, h url hurl, sets_urlEdits _ _ _ _⟩
      · simp only [edits, ownEdits, hurl, if_pos hname, haddress, List.append_assoc]
      · rcases List.mem_append.1 he with he | he
        · exact setsOrFills_own e he
        · exact Sets.setsOrFills (hparts e he)
    · exact ⟨[], [], urlEdits settings s.name url c,
        by simp only [edits, hurl, if_neg hname, List.nil_append], by simp, by simp,
        sets_urlEdits _ _ _ _⟩

end Propagation

/-! ## Configuration maps -/

namespace ConfigMap

@[simp] theorem metadata_edit (c : ConfigMap) (edits : List Edit) :
    (c.edit edits).metadata = c.metadata := by
  rw [edit]
  split <;> rfl

theorem edit_eq_self {c : ConfigMap} {edits : List Edit} (h : (c.edit edits).data = c.data) :
    c.edit edits = c := by
  rw [edit] at h ⊢
  split
  · rfl
  · next hne =>
    rw [if_neg hne] at h
    simp only at h
    rw [h]

theorem edit_again {c : ConfigMap} {edits : List Edit} (h : Edit.InOrder edits) :
    (c.edit edits).edit edits = c.edit edits := by
  -- edits that end without an entry leave the map as it is
  by_cases hempty : (edits.foldl Edit.apply (c.data.getD ∅)).isEmpty
  · have hsame : c.edit edits = c := by simp [edit, hempty]
    rw [hsame, hsame]
  · simp [edit, hempty, h.foldl_apply_again]

end ConfigMap

namespace Propagation

/-- A configuration map as a service wants it. -/
def edited (settings : Settings) (s : Service) (name : String) (c : ConfigMap) : ConfigMap :=
  c.edit (edits settings s name c)

@[simp] theorem key_edited (settings : Settings) (s : Service) (name : String) (c : ConfigMap) :
    Resource.key (edited settings s name c) = Resource.key c :=
  congrArg Metadata.key (c.metadata_edit _)

/-- What a configuration map asks for stands in its annotations. -/
theorem edits_edit (settings : Settings) (s : Service) (name : String) (c : ConfigMap)
    (es : List Edit) :
    edits settings s name (c.edit es) = edits settings s name c := by
  have hannotation (key : String) : (c.edit es).annotation? key = c.annotation? key := by
    simp [ConfigMap.annotation?]
  simp only [edits, ownEdits, clusterEdits, clusterIPEdits, addressEdits, urlEdits,
    setDeclared, hannotation]

/-- Where line rules stay on their lines, a map is left as it is by what made it so. -/
theorem edited_again_of_onLines {settings : Settings} {s : Service}
    (h : ∀ url, s.exposedUrl? = some url → ∀ e ∈ lineEdits settings s url, e.OnLines)
    (name : String) (c : ConfigMap) :
    edited settings s name (edited settings s name c) = edited settings s name c := by
  rw [edited, edited, edits_edit, ConfigMap.edit_again (inOrder_of_onLines h name c)]

theorem edited_again {settings : Settings} {s : Service} (h : StaysOnLines settings s)
    (name : String) (c : ConfigMap) :
    edited settings s name (edited settings s name c) = edited settings s name c :=
  edited_again_of_onLines (fun _ hurl => onLines_lineEdits h hurl) name c

theorem mem_changed {settings : Settings} {s : Service} {configMaps : Dict String ConfigMap}
    {c : ConfigMap} :
    c ∈ changed settings s configMaps ↔ ∃ name old, configMaps.get? name = some old ∧
      edited settings s name old = c ∧ edited settings s name old ≠ old := by
  simp only [changed, List.mem_filterMap, Prod.exists, Dict.mem_toList_iff]
  refine exists_congr fun name => exists_congr fun old => and_congr_right fun _ => ?_
  by_cases hdata : (old.edit (edits settings s name old)).data = old.data
  · have hsame := ConfigMap.edit_eq_self hdata
    simp [edited, hsame]
  · have hne : old.edit (edits settings s name old) ≠ old := fun h => hdata (by rw [h])
    simp [edited, hdata, hne]

end Propagation

/-! ## Deployments -/

namespace Rollout

@[simp] theorem metadata_stamp (c : ConfigMap) (d : Deployment) :
    (stamp c d).metadata = d.metadata := by
  rw [stamp]
  split <;> rfl

/-- A deployment with the fingerprints of several configuration maps, one after the other. -/
def stampAll (cs : List ConfigMap) (d : Deployment) : Deployment :=
  cs.foldl (fun d c => stamp c d) d

@[simp] theorem metadata_stampAll (cs : List ConfigMap) (d : Deployment) :
    (stampAll cs d).metadata = d.metadata := by
  induction cs generalizing d with
  | nil => rfl
  | cons c cs ih => exact (ih (stamp c d)).trans (metadata_stamp c d)

@[simp] theorem key_stampAll (cs : List ConfigMap) (d : Deployment) :
    Resource.key (stampAll cs d) = Resource.key d :=
  congrArg Metadata.key (metadata_stampAll cs d)

theorem get?_rollAll (cs : List ConfigMap) (ds : Dict String Deployment) (name : String) :
    (rollAll cs ds).1.get? name = (ds.get? name).map (stampAll cs) := by
  induction cs generalizing ds with
  | nil =>
    rw [rollAll, show stampAll [] = id from rfl, Option.map_id]
    rfl
  | cons c cs ih =>
    rw [rollAll, ih, roll, Dict.get?_map, Option.map_map]
    rfl

/-- A deployment that is not rolled stays as it is. -/
theorem stampAll_eq_self {cs : List ConfigMap} {ds : Dict String Deployment} {name : String}
    {d : Deployment} (hget : ds.get? name = some d) (h : name ∉ (rollAll cs ds).2) :
    stampAll cs d = d := by
  induction cs generalizing ds with
  | nil => rfl
  | cons c cs ih =>
    simp only [rollAll, List.mem_append, not_or] at h
    obtain ⟨hnow, hlater⟩ := h
    have hsame : stamp c d = d := by
      -- a stamp that changes the deployment would have rolled it
      refine Decidable.byContradiction fun hne => hnow ?_
      exact List.mem_map.2 ⟨(name, d),
        List.mem_filter.2 ⟨Dict.mem_toList_iff.2 hget, by simpa using hne⟩, rfl⟩
    have hrolled : (roll c ds).get? name = some d := by
      rw [roll, Dict.get?_map, hget, Option.map_some, hsame]
    exact (congrArg (stampAll cs) hsame).trans (ih hrolled hlater)

/-- The deployments that configuration maps roll, as they are in the end. -/
def rolledOut (cs : List ConfigMap) (ds : Dict String Deployment) : List Deployment :=
  ((rollAll cs ds).1.toList.filter fun e => (rollAll cs ds).2.contains e.1).map (·.2)

@[simp] theorem rolledOut_nil (ds : Dict String Deployment) : rolledOut [] ds = [] := by
  simp [rolledOut, rollAll]

theorem mem_rolledOut {cs : List ConfigMap} {ds : Dict String Deployment} {d : Deployment} :
    d ∈ rolledOut cs ds ↔ ∃ name old, ds.get? name = some old ∧ name ∈ (rollAll cs ds).2 ∧
      stampAll cs old = d := by
  simp only [rolledOut, List.mem_map, List.mem_filter, Prod.exists,
    Dict.mem_toList_iff, get?_rollAll, Option.map_eq_some_iff, List.contains_iff_mem]
  constructor
  · rintro ⟨name, d, ⟨⟨old, hold, rfl⟩, hname⟩, rfl⟩
    exact ⟨name, old, hold, hname, rfl⟩
  · rintro ⟨name, old, hold, hname, rfl⟩
    exact ⟨name, _, ⟨⟨old, hold, rfl⟩, hname⟩, rfl⟩

end Rollout

/-! ## In a cluster -/

namespace Cluster

open Propagation Rollout

/-- The cluster with all configuration maps of a namespace as a service wants them. -/
def configured (c : Cluster) (settings : Settings) (s : Service) (ns : String) : Cluster :=
  { c with
    configMaps := c.configMaps.edited ns (edited settings s) (key_edited settings s) }

/-- The cluster with fingerprints of configuration maps on all deployments of a namespace. -/
def restarted (c : Cluster) (configMaps : List ConfigMap) (ns : String) : Cluster :=
  { c with
    deployments := c.deployments.edited ns (fun _ => stampAll configMaps) fun _ =>
      key_stampAll configMaps }

/-- The configuration maps of a namespace that a service changes. -/
def outdated (c : Cluster) (settings : Settings) (s : Service) (ns : String) : List ConfigMap :=
  changed settings s (Resource.byName (c.configMaps.inNamespace ns))

/-- The deployments of a namespace that configuration maps roll. -/
def toRestart (c : Cluster) (configMaps : List ConfigMap) (ns : String) : List Deployment :=
  rolledOut configMaps (Resource.byName (c.deployments.inNamespace ns))

theorem effects_replaceConfigMap (c : Cluster) (ms : List ConfigMap) :
    c.effects (ms.map .replaceConfigMap) = .ok { c with configMaps := c.configMaps.putAll ms } := by
  induction ms generalizing c with
  | nil => rfl
  | cons m ms ih => exact ih { c with configMaps := c.configMaps.put m }

theorem effects_replaceDeployment (c : Cluster) (ds : List Deployment) :
    c.effects (ds.map .replaceDeployment) =
      .ok { c with deployments := c.deployments.putAll ds } := by
  induction ds generalizing c with
  | nil => rfl
  | cons d ds ih => exact ih { c with deployments := c.deployments.put d }

theorem effects_outdated (c : Cluster) (settings : Settings) (s : Service) (ns : String) :
    c.effects ((c.outdated settings s ns).map .replaceConfigMap) =
      .ok (c.configured settings s ns) := by
  rw [effects_replaceConfigMap, configured]
  congr 2
  -- what is written is just what the edit changes
  refine Shelf.putAll_eq_edited _ ?_ ?_
  · intro m hm
    obtain ⟨name, old, hget, heq, -⟩ := mem_changed.1 hm
    exact ⟨name, old, c.configMaps.get?_byName ns name ▸ hget, heq⟩
  · intro name old hget
    by_cases hsame : edited settings s name old = old
    · exact .inl hsame
    · exact .inr (mem_changed.2
        ⟨name, old, (c.configMaps.get?_byName ns name).trans hget, rfl, hsame⟩)

theorem effects_toRestart (c : Cluster) (configMaps : List ConfigMap) (ns : String) :
    c.effects ((c.toRestart configMaps ns).map .replaceDeployment) =
      .ok (c.restarted configMaps ns) := by
  rw [effects_replaceDeployment, restarted]
  congr 2
  -- a deployment that is rolled may be written as it was, but none is left out that changes
  refine Shelf.putAll_eq_edited _ ?_ ?_
  · intro d hd
    obtain ⟨name, old, hget, -, heq⟩ := mem_rolledOut.1 hd
    exact ⟨name, old, c.deployments.get?_byName ns name ▸ hget, heq⟩
  · intro name old hget
    have hbyName := (c.deployments.get?_byName ns name).trans hget
    by_cases hrolled :
        name ∈ (rollAll configMaps (Resource.byName (c.deployments.inNamespace ns))).2
    · exact .inr (mem_rolledOut.2 ⟨name, old, hbyName, hrolled, rfl⟩)
    · exact .inl (stampAll_eq_self hbyName hrolled)

/-- Once a service has its way with the configuration maps, it changes none. -/
theorem outdated_configured {c : Cluster} {settings : Settings} {s : Service}
    (h : StaysOnLines settings s) (ns : String) :
    (c.configured settings s ns).outdated settings s ns = [] := by
  refine List.eq_nil_iff_forall_not_mem.2 fun m hm => ?_
  obtain ⟨name, old, hget, -, hne⟩ := mem_changed.1 hm
  rw [Shelf.get?_byName, configured, Shelf.get?_edited] at hget
  obtain ⟨older, -, rfl⟩ := Option.map_eq_some_iff.1 hget
  exact hne (by simpa using edited_again h name older)

@[simp] theorem restarted_nil (c : Cluster) (ns : String) : c.restarted [] ns = c := by
  have hsame :
      c.deployments.edited ns (fun _ => stampAll []) (fun _ => key_stampAll []) = c.deployments :=
    Shelf.ext_get? fun key => by simp [Shelf.get?_edited, stampAll]
  rw [restarted, hsame]

end Cluster

end ServiceExposure
