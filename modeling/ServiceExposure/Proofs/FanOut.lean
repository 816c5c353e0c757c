import ServiceExposure.Proofs.DeclaredKeys

/-! # Fan-out

A configuration map asks for the URL of a service in any of its forms, and for the protocol, each
under any number of keys. The requests are met one after the other, so that a key gets the value of
the last request that lists it, and all other keys stay as they are. -/

namespace ServiceExposure

namespace Propagation

/-! ## Requests -/

/-- A request of a configuration map: the text that lists its keys, and the value that these are to
have. -/
structure Request where
  keys : String
  value : String
deriving DecidableEq, Repr

namespace Request

/-- Whether a key stands in the list: between commas, without the blanks around it. -/
def Lists (r : Request) (key : String) : Prop :=
  key ≠ "" ∧ ∃ piece ∈ Text.split ',' r.keys, Text.trim piece = key

instance (r : Request) (key : String) : Decidable (r.Lists key) :=
  inferInstanceAs (Decidable (key ≠ "" ∧ ∃ piece ∈ Text.split ',' r.keys, Text.trim piece = key))

def edits (r : Request) : List Edit := (keysOf r.keys).map (.set · r.value)

theorem mem_keysOf {r : Request} {key : String} : key ∈ keysOf r.keys ↔ r.Lists key := by
  simp only [keysOf, List.mem_filter, List.mem_map, decide_eq_true_eq, Lists, and_comm]

/-- A request sets the keys that it lists. -/
theorem get?_edits_of_lists {r : Request} {key : String} (h : r.Lists key) (data : StringDict) :
    (r.edits.foldl Edit.apply data).get? key = some r.value := by
  have hset : ∀ e ∈ r.edits.filter (·.key = key), e = .set key r.value := by
    intro e he
    obtain ⟨he, hkey⟩ := List.mem_filter.1 he
    obtain ⟨other, -, rfl⟩ := List.mem_map.1 he
    obtain rfl : other = key := of_decide_eq_true hkey
    rfl
  have hmem : .set key r.value ∈ r.edits.filter (·.key = key) :=
    List.mem_filter.2 ⟨List.mem_map.2 ⟨key, mem_keysOf.2 h, rfl⟩, decide_eq_true rfl⟩
  rw [Edit.get?_foldl_apply]
  exact Edit.onAll_of_forall_set hset (List.ne_nil_of_mem hmem) _

/-- Requests leave the keys alone that none of them lists. -/
theorem get?_edits_of_not_lists {requests : List Request} {key : String}
    (h : ∀ r ∈ requests, ¬r.Lists key) (data : StringDict) :
    ((requests.flatMap edits).foldl Edit.apply data).get? key = data.get? key := by
  refine Edit.get?_foldl_apply_of_not_mem ?_ data
  rintro e he rfl
  obtain ⟨r, hr, he⟩ := List.mem_flatMap.1 he
  obtain ⟨key, hkey, rfl⟩ := List.mem_map.1 he
  exact h r hr (mem_keysOf.1 hkey)

/-- The last request that lists a key decides. -/
theorem get?_edits_of_last {earlier later : List Request} {r : Request} {key : String}
    (h : r.Lists key) (hlast : ∀ r' ∈ later, ¬r'.Lists key) (data : StringDict) :
    (((earlier ++ r :: later).flatMap edits).foldl Edit.apply data).get? key = some r.value := by
  simp only [List.flatMap_append, List.flatMap_cons, List.foldl_append]
  rw [get?_edits_of_not_lists hlast, get?_edits_of_lists h]

end Request

/-- The request of a configuration map for one form of the URL, unless the URL does not have that
form. -/
def formRequest? (service url : String) (m : ConfigMap) (form : UrlForm) : Option Request := do
  let keys ← m.annotation? (form.requestKey service)
  let value ← form.render? url
  return { keys, value }

/-- The request of a configuration map for the protocol, which names no service. -/
def protocolRequest? (settings : Settings) (m : ConfigMap) : Option Request :=
  (m.annotation? Annotation.urlProtocolKey).map fun keys => { keys, value := settings.urlProtocol }

/-- The requests of a configuration map for the URL of a service, in the order of the forms, and for
the protocol. -/
def requests (settings : Settings) (service url : String) (m : ConfigMap) : List Request :=
  UrlForm.all.filterMap (formRequest? service url m) ++ (protocolRequest? settings m).toList

theorem edits_formRequest? (service url : String) (m : ConfigMap) (form : UrlForm) :
    ((formRequest? service url m form).map Request.edits).getD [] = match form.render? url with
      | some value => setEach (m.annotation? (form.requestKey service)) value
      | none => [] := by
  rw [formRequest?]
  cases m.annotation? (form.requestKey service) <;> cases form.render? url <;> rfl

/-- The edits for the URL are those of the requests, one after the other. -/
theorem urlEdits_eq (settings : Settings) (service url : String) (m : ConfigMap) :
    urlEdits settings service url m = (requests settings service url m).flatMap Request.edits := by
  have hforms (forms : List UrlForm) :
      (forms.filterMap (formRequest? service url m)).flatMap Request.edits =
      forms.flatMap fun form => ((formRequest? service url m form).map Request.edits).getD [] := by
    induction forms with
    | nil => rfl
    | cons form forms ih =>
      rw [List.filterMap_cons, List.flatMap_cons, ← ih]
      cases formRequest? service url m form <;> rfl
  have hprotocol : (protocolRequest? settings m).toList.flatMap Request.edits =
      setEach (m.annotation? Annotation.urlProtocolKey) settings.urlProtocol := by
    rw [protocolRequest?]
    cases m.annotation? Annotation.urlProtocolKey with
    | none => rfl
    | some keys => exact List.append_nil _
  rw [requests, List.flatMap_append, hforms, hprotocol, urlEdits]
  exact congrArg (UrlForm.all.flatMap · ++ _) (funext fun form =>
    (edits_formRequest? service url m form).symm)

/-- The value of a key after requests: that of the last request that lists it. -/
theorem get?_requests (requests : List Request) (key : String) (data : StringDict) :
    ((requests.flatMap Request.edits).foldl Edit.apply data).get? key =
      match requests.findRev? (·.Lists key) with
      | some r => some r.value
      | none => data.get? key := by
  rw [List.findRev?_eq_find?_reverse]
  cases hlast : requests.reverse.find? (·.Lists key) with
  | none =>
    refine Request.get?_edits_of_not_lists (fun r hr => ?_) data
    simpa using List.find?_eq_none.1 hlast r (List.mem_reverse.2 hr)
  | some r =>
    obtain ⟨hlists, later, earlier, heq, hlater⟩ := List.find?_eq_some_iff_append.1 hlast
    have hsplit : requests = earlier.reverse ++ r :: later.reverse := by
      simpa using congrArg List.reverse heq
    rw [hsplit]
    refine Request.get?_edits_of_last (of_decide_eq_true hlists) (fun r' hr' => ?_) data
    simpa using hlater r' (List.mem_reverse.1 hr')

/-! ## Configuration maps -/

/-- For an exposed service, each configuration map gets the values that it asks for. The map of the
service has what is the service's own written first, so that for it nothing is said of other
keys. -/
theorem value?_edited {settings : Settings} {s : Service} {url : String}
    (hurl : s.exposedUrl? = some url) (name : String) (m : ConfigMap) (key : String) :
    match (requests settings s.name url m).findRev? (·.Lists key) with
    | some r => (edited settings s name m).value? key = some r.value
    | none => name ≠ s.name → (edited settings s name m).value? key = m.value? key := by
  have hvalue : (edited settings s name m).value? key =
      match (requests settings s.name url m).findRev? (·.Lists key) with
      | some r => some r.value
      | none =>
        ((if name = s.name then ownEdits settings s m else []).foldl Edit.apply
          (m.data.getD ∅)).get? key := by
    simp only [edited, ConfigMap.value?_edit, edits, hurl, List.foldl_append, urlEdits_eq]
    exact get?_requests _ _ _
  rw [hvalue]
  cases (requests settings s.name url m).findRev? (·.Lists key) with
  | some r => rfl
  | none =>
    intro hname
    rw [if_neg hname, ConfigMap.value?_eq]
    rfl

/-- The configuration maps that change are those with other data than they had, each once. -/
theorem changed_eq (settings : Settings) (s : Service) (configMaps : Dict String ConfigMap) :
    changed settings s configMaps =
      (configMaps.toList.filter fun e => (edited settings s e.1 e.2).data ≠ e.2.data).map
        fun e => edited settings s e.1 e.2 := by
  rw [changed]
  induction configMaps.toList with
  | nil => rfl
  | cons e rest ih =>
    rw [List.filterMap_cons, ih]
    by_cases hdata : (e.2.edit (edits settings s e.1 e.2)).data = e.2.data <;> simp [edited, hdata]

end Propagation

/-! ## A key that is asked for twice -/

namespace Sample

/-- A service that is reached at a URL. -/
def published : Service where
  metadata := {
    name := some "web"
    inNamespace := some "ns1"
    annotations := some (.insert ∅ Annotation.exposeUrl "http://web.ns1.example.com/") }

/-- A configuration map that asks for the URL and the protocol of a service under one key. -/
def overlapping : ConfigMap where
  metadata := {
    name := some "app"
    inNamespace := some "ns1"
    annotations := some (.ofList [
      (UrlForm.plain.requestKey "web", " url, shared,,"),
      (UrlForm.protocol.requestKey "web", "shared")]) }
  data := some (.insert ∅ "color" "blue")

def overlappingOnly : Dict String ConfigMap := .insert ∅ "app" overlapping

end Sample

/-! ## Fan-out -/

open Propagation

/-- For an exposed service, the configuration maps that change are those with other data than they
had, each once. Only data change, and a key has the value of the last request that lists it. If none
lists it, it has the value that it had, unless the configuration map is the one of the service. -/
theorem fan_out_exact {settings : Settings} {s : Service} {url : String}
    (hurl : s.exposedUrl? = some url) (configMaps : Dict String ConfigMap) :
    changed settings s configMaps =
      (configMaps.toList.filter fun e => (edited settings s e.1 e.2).data ≠ e.2.data).map
        (fun e => edited settings s e.1 e.2) ∧
    ∀ name m, configMaps.get? name = some m →
      edited settings s name m = { m with data := (edited settings s name m).data } ∧
      ∀ key, match (requests settings s.name url m).findRev? (·.Lists key) with
        | some r => (edited settings s name m).value? key = some r.value
        | none => name ≠ s.name → (edited settings s name m).value? key = m.value? key :=
  ⟨changed_eq settings s configMaps, fun name m _ =>
    ⟨(changedAt_edited settings s name m).data, value?_edited hurl name m⟩⟩

open Sample in
/-- The later form decides for the key that is asked for twice, and the key that is not asked for
stays. -/
theorem fan_out_exact_overlapping :
    changed {} published overlappingOnly = [edited {} published "app" overlapping] ∧
      (edited {} published "app" overlapping).value? "url" = some "http://web.ns1.example.com" ∧
      (edited {} published "app" overlapping).value? "shared" = some "http" ∧
      (edited {} published "app" overlapping).value? "color" = some "blue" := by
  have hurl : published.exposedUrl? = some "http://web.ns1.example.com/" := by decide
  obtain ⟨hchanged, hmaps⟩ := @fan_out_exact {} _ _ hurl overlappingOnly
  obtain ⟨-, hvalue⟩ := hmaps "app" overlapping rfl
  have hshared : (edited {} published "app" overlapping).value? "shared" = some "http" :=
    hvalue "shared"
  have hdata : (edited {} published "app" overlapping).data ≠ overlapping.data := by
    intro hsame
    rw [ConfigMap.value?, hsame] at hshared
    cases hshared
  refine ⟨?_, hvalue "url", hshared, hvalue "color" (by decide)⟩
  have hlisted : overlappingOnly.toList = [("app", overlapping)] := rfl
  rw [hchanged, hlisted, List.filter_cons_of_pos (by simpa using hdata)]
  rfl

end ServiceExposure
