import ServiceExposure.Proofs.ConcurrentEdits

/-! # Declared keys

The edits of a configuration map are for keys that it declares by its annotations, or that the
service declares for it, and for no others. No edit takes a key away. -/

namespace ServiceExposure

/-! ## Edits of one map -/

/-- A configuration map that differs in its data only, there under the keys only, and lacks no key
that was there. -/
structure ConfigMap.ChangedAt (keys : List String) (m m' : ConfigMap) : Prop where
  data : m' = { m with data := m'.data }
  value? : ∀ key ∉ keys, m'.value? key = m.value? key
  stays : ∀ key, (m.value? key).isSome → (m'.value? key).isSome

namespace Edit

theorem isSome_on {e : Edit} {value : Option String} (h : value.isSome) : (e.on value).isSome := by
  cases e with
  | set key new => rfl
  | fill key new =>
    simp only [on]
    split
    · exact h
    · rfl
  | lines key start line =>
    simp only [on]
    cases nonEmpty? value with
    | none => exact h
    | some text => rfl

/-- Edits leave the other keys alone. -/
theorem get?_foldl_apply_of_not_mem {edits : List Edit} {key : String}
    (h : ∀ e ∈ edits, e.key ≠ key) (data : StringDict) :
    (edits.foldl apply data).get? key = data.get? key := by
  have hnone : edits.filter (·.key = key) = [] := List.filter_eq_nil_iff.2 fun e he => by
    simpa using h e he
  rw [get?_foldl_apply, hnone]
  rfl

theorem isSome_get?_foldl_apply {edits : List Edit} {data : StringDict} {key : String}
    (h : (data.get? key).isSome) :
    ((edits.foldl apply data).get? key).isSome := by
  induction edits generalizing data with
  | nil => exact h
  | cons e edits ih =>
    refine ih ?_
    rw [get?_apply]
    split
    · exact isSome_on h
    · exact h

/-- A key that is set is there afterwards. -/
theorem isSome_get?_of_set {edits : List Edit} {key value : String} (h : .set key value ∈ edits)
    (data : StringDict) :
    ((edits.foldl apply data).get? key).isSome := by
  obtain ⟨first, last, rfl⟩ := List.append_of_mem h
  rw [List.foldl_append, List.foldl_cons]
  refine isSome_get?_foldl_apply ?_
  have hset : (apply (first.foldl apply data) (.set key value)).get? key = some value := by
    rw [get?_apply]
    exact if_pos rfl
  exact Option.isSome_of_eq_some hset

end Edit

namespace ConfigMap

theorem value?_eq (m : ConfigMap) (key : String) : m.value? key = (m.data.getD ∅).get? key := by
  cases h : m.data <;> simp [value?, h]

theorem value?_edit (m : ConfigMap) (edits : List Edit) (key : String) :
    (m.edit edits).value? key = (edits.foldl Edit.apply (m.data.getD ∅)).get? key := by
  rw [edit]
  split
  -- data that end without an entry had none before
  · next hempty =>
    have hnone : (edits.foldl Edit.apply (m.data.getD ∅)).get? key = none := by
      rw [Dict.get?, List.isEmpty_iff.1 hempty]
      rfl
    rw [hnone, value?_eq]
    cases hvalue : (m.data.getD ∅).get? key with
    | none => rfl
    | some value =>
      have hsome : ((edits.foldl Edit.apply (m.data.getD ∅)).get? key).isSome :=
        Edit.isSome_get?_foldl_apply (Option.isSome_of_eq_some hvalue)
      rw [hnone] at hsome
      cases hsome
  · rfl

theorem changedAt_edit {keys : List String} {edits : List Edit} (h : ∀ e ∈ edits, e.key ∈ keys)
    (m : ConfigMap) :
    ChangedAt keys m (m.edit edits) where
  data := by
    rw [edit]
    split <;> rfl
  value? := by
    intro key hkey
    rw [value?_edit, value?_eq]
    refine Edit.get?_foldl_apply_of_not_mem ?_ _
    rintro e he rfl
    exact hkey (h e he)
  stays := by
    intro key hkey
    rw [value?_edit]
    rw [value?_eq] at hkey
    exact Edit.isSome_get?_foldl_apply hkey

end ConfigMap

/-! ## Declarations -/

namespace Propagation

/-- The annotations by which any configuration map asks for the URL of a service. -/
def urlRequests (service : String) : List String :=
  UrlForm.all.map (·.requestKey service) ++ [ Annotation.urlProtocolKey]

/-- The annotations that declare keys for the address inside the cluster, on the service or on its
configuration map. -/
def clusterIPRequests : List String :=
  [ Annotation.clusterIPKey, Annotation.clusterIPPortKey, Annotation.clusterIPPortIfEmptyKey]

/-- The annotations by which the configuration map of a service declares further keys. -/
def ownRequests : List String :=
  [ Annotation.urlKey, Annotation.hostKey, Annotation.pathKey, Annotation.apiServerKey,
    Annotation.apiServerUrlKey, Annotation.apiServerProtocolKey,
    Annotation.consoleUrlKey] ++ clusterIPRequests

/-- The keys under which a configuration map asks for the URL of a service. -/
def requestedKeys (service : String) (m : ConfigMap) : List String :=
  (urlRequests service).flatMap fun request => ((m.annotation? request).map keysOf).getD []

/-- The keys that are declared for the configuration map that has the name of the service. -/
def ownKeys (s : Service) (m : ConfigMap) : List String :=
  ownRequests.filterMap (fun request => nonEmpty? (m.annotation? request)) ++
    clusterIPRequests.filterMap s.setting? ++
    (lineRules s).map (·.key)

/-- The keys that are declared for a service in the configuration map of that name. -/
def declaredKeys (s : Service) (name : String) (m : ConfigMap) : List String :=
  requestedKeys s.name m ++ if name = s.name then ownKeys s m else []

variable {settings : Settings} {s : Service} {m : ConfigMap}

theorem key_setEach {service request value : String} (h : request ∈ urlRequests service) :
    ∀ e ∈ setEach (m.annotation? request) value, e.key ∈ requestedKeys service m := by
  intro e he
  obtain ⟨key, hkey, rfl⟩ := List.mem_map.1 he
  exact List.mem_flatMap.2 ⟨request, h, hkey⟩

theorem key_urlEdits (service url : String) :
    ∀ e ∈ urlEdits settings service url m, e.key ∈ requestedKeys service m := by
  intro e he
  rcases List.mem_append.1 he with he | he
  · obtain ⟨form, hform, he⟩ := List.mem_flatMap.1 he
    split at he
    · exact key_setEach (List.mem_append_left _ (List.mem_map_of_mem hform)) e he
    · exact absurd he List.not_mem_nil
  · exact key_setEach (List.mem_append_right _ (List.mem_singleton.2 rfl)) e he

theorem key_setDeclared {request value : String} (h : request ∈ ownRequests) :
    ∀ e ∈ setDeclared m request value, e.key ∈ ownKeys s m := by
  intro e he
  obtain ⟨key, hkey, rfl⟩ := List.mem_map.1 he
  refine List.mem_append_left _ (List.mem_append_left _ ?_)
  exact List.mem_filterMap.2 ⟨request, h, Option.mem_toList.1 hkey⟩

theorem key_clusterEdits : ∀ e ∈ clusterEdits settings m, e.key ∈ ownKeys s m := by
  intro e he
  simp only [clusterEdits, List.mem_append] at he
  rcases he with (he | he) | he
  · split at he
    · rcases List.mem_append.1 he with he | he
      · exact key_setDeclared (by decide) e he
      · exact key_setDeclared (by decide) e he
    · exact absurd he List.not_mem_nil
  · split at he
    · exact key_setDeclared (by decide) e he
    · exact absurd he List.not_mem_nil
  · exact key_setDeclared (by decide) e he

/-- A key for the address inside the cluster stands on the service, or else on the map. -/
theorem mem_ownKeys_of_clusterIP {request key : String} (hrequest : request ∈ clusterIPRequests)
    (h : key ∈ (s.setting? request <|> nonEmpty? (m.annotation? request)).toList) :
    key ∈ ownKeys s m := by
  rw [Option.mem_toList, Option.orElse_eq_some] at h
  refine List.mem_append_left _ ?_
  rcases h with hservice | ⟨-, hmap⟩
  · exact List.mem_append_right _ (List.mem_filterMap.2 ⟨request, hrequest, hservice⟩)
  · exact List.mem_append_left _ (List.mem_filterMap.2 ⟨request,
      List.mem_append_right _ hrequest, hmap⟩)

theorem key_clusterIPEdits : ∀ e ∈ clusterIPEdits s m, e.key ∈ ownKeys s m := by
  intro e he
  simp only [clusterIPEdits] at he
  split at he
  · exact absurd he List.not_mem_nil
  · rcases List.mem_append.1 he with he | he
    · obtain ⟨key, hkey, rfl⟩ := List.mem_map.1 he
      exact mem_ownKeys_of_clusterIP (by decide) hkey
    · split at he
      · exact absurd he List.not_mem_nil
      · rcases List.mem_append.1 he with he | he <;> obtain ⟨key, hkey, rfl⟩ := List.mem_map.1 he
        · exact mem_ownKeys_of_clusterIP (by decide) hkey
        · exact mem_ownKeys_of_clusterIP (by decide) hkey

theorem key_lineEdits (url : String) : ∀ e ∈ lineEdits settings s url, e.key ∈ ownKeys s m := by
  intro e he
  obtain ⟨rule, hrule, value, -, -, rfl⟩ := exists_rule_of_mem_lineEdits he
  exact List.mem_append_right _ (List.mem_map_of_mem hrule)

theorem key_addressEdits (url : String) :
    ∀ e ∈ addressEdits settings s url m, e.key ∈ ownKeys s m := by
  intro e he
  simp only [addressEdits, List.mem_append] at he
  rcases he with ((he | he) | he) | he
  · exact key_setDeclared (by decide) e he
  · split at he
    · exact key_setDeclared (by decide) e he
    · exact absurd he List.not_mem_nil
  · exact key_setDeclared (by decide) e he
  · exact key_lineEdits url e he

theorem key_ownEdits : ∀ e ∈ ownEdits settings s m, e.key ∈ ownKeys s m := by
  intro e he
  simp only [ownEdits, List.mem_append] at he
  rcases he with (he | he) | he
  · exact key_clusterEdits e he
  · exact key_clusterIPEdits e he
  · split at he
    · exact key_addressEdits _ e he
    · exact absurd he List.not_mem_nil

/-- All edits are for declared keys. -/
theorem key_edits (name : String) :
    ∀ e ∈ edits settings s name m, e.key ∈ declaredKeys s name m := by
  intro e he
  rw [declaredKeys]
  rcases List.mem_append.1 he with he | he
  · refine List.mem_append_right _ ?_
    split at he
    · next hname => exact (if_pos hname).symm ▸ key_ownEdits e he
    · exact absurd he List.not_mem_nil
  · refine List.mem_append_left _ ?_
    split at he
    · exact key_urlEdits _ _ e he
    · exact absurd he List.not_mem_nil

theorem changedAt_edited (settings : Settings) (s : Service) (name : String) (m : ConfigMap) :
    ConfigMap.ChangedAt (declaredKeys s name m) m (edited settings s name m) :=
  m.changedAt_edit (key_edits name)

/-- Services with the same name and the same declarations declare the same keys. -/
theorem declaredKeys_congr {t : Service} (hname : t.name = s.name)
    (h : ∀ request ∈ Annotation.configYaml :: clusterIPRequests,
      t.annotation? request = s.annotation? request)
    (name : String) (m : ConfigMap) : declaredKeys t name m = declaredKeys s name m := by
  have hrules : lineRules t = lineRules s := by
    rw [lineRules, lineRules, Service.setting?, Service.setting?, h _ List.mem_cons_self]
  have hclusterIP :
      clusterIPRequests.filterMap t.setting? = clusterIPRequests.filterMap s.setting? := by
    refine List.filterMap_congr fun request hrequest => ?_
    rw [Service.setting?, Service.setting?, h _ (List.mem_cons_of_mem _ hrequest)]
  simp only [declaredKeys, ownKeys, hname, hrules, hclusterIP]

end Propagation

/-! ## The recorded service -/

/-- To expose a service edits what is recorded on it and how it is typed, or nothing. -/
theorem Strategy.edits_target (st : Strategy) (s : Service) (snapshot : Snapshot) :
    Service.Edits s.recordKeys s (st.target s snapshot) := by
  rw [target]
  split
  · exact st.edits_desired s
  · exact ⟨⟨rfl, fun _ _ => rfl, rfl⟩, id, id⟩

theorem Service.AgreeOutside.key {keys : List String} {s t : Service} (h : AgreeOutside keys s t) :
    t.key = s.key :=
  (congrArg Metadata.key h.metadata :)

/-- What is recorded on a service declares no keys, unless it is recorded under an annotation that
does. -/
theorem Propagation.declaredKeys_target {s : Service}
    (h : ∀ other, Service.aliasKey? s.annotations = some other →
      other ∉ Annotation.configYaml :: clusterIPRequests)
    (st : Strategy) (snapshot : Snapshot) (name : String) (m : ConfigMap) :
    declaredKeys (st.target s snapshot) name m = declaredKeys s name m := by
  have hedits := (st.edits_target s snapshot).toAgreeOutside
  refine declaredKeys_congr (congrArg ObjectKey.name hedits.key)
    (fun request hrequest => hedits.annotation? _ ?_) name m
  intro hmem
  rcases List.mem_cons.1 hmem with rfl | halias
  · exact absurd hrequest (by decide)
  · exact h request (Option.mem_toList.1 halias) hrequest

end ServiceExposure
