import ServiceExposure.Proofs.Isolation

/-! # What a recorded URL leads to

The URL of a service that is exposed by ingress is found from the service alone, each time that it
is exposed. Its ingress is written only while the service is not on its path there. So the URL
agrees with what has been written for the service, and an ingress that had the service on its path
before may well have another host. -/

namespace ServiceExposure

/-! ## The URL -/

namespace TlsSettings

theorem scheme?_protocol (enabled : Bool) (address : String) :
    Address.scheme? (protocol enabled ++ "://" ++ address) = some (protocol enabled) := by
  cases enabled with
  | false => exact Address.scheme?_eq (by decide) (by decide) address
  | true => exact Address.scheme?_eq (by decide) (by decide) address

theorem protocol_eq_https_iff {enabled : Bool} :
    protocol enabled = "https" ↔ enabled := by cases enabled <;> decide

end TlsSettings

namespace IngressStrategy

/-- Whether a URL is for the host that a strategy places a service at. Where services are told apart
by path, the URL has the path of the service behind the host. Where they are not, the path is the
one that the service asks for, if any, and the URL does without it. -/
def Locates (st : IngressStrategy) (s : Service) (url : String) : Prop :=
  ∃ address, url = TlsSettings.protocol (st.tls.enabledFor s) ++ "://" ++ address ∧
    (st.routesByPath s → ∃ path, (st.place s).path = some path ∧
      address = Text.withoutLast '/' (st.place s).host ++ path) ∧
    (¬st.routesByPath s → (st.place s).path = s.setting? Annotation.ingressPath ∧
      address = Address.bracketed (st.place s).host)

variable {st : IngressStrategy} {s : Service}

theorem Locates.scheme? {url : String} (h : st.Locates s url) :
    Address.scheme? url = some (TlsSettings.protocol (st.tls.enabledFor s)) := by
  obtain ⟨address, rfl, -⟩ := h
  exact TlsSettings.scheme?_protocol _ _

theorem bracketed_fullHost_of_byPath (h : st.routesByPath s) :
    ∃ path, (st.place s).path = some path ∧
    Address.bracketed (st.place s).fullHost = Text.withoutLast '/' (st.place s).host ++ path := by
  have hslash :=
    Address.head?_join_root s.key.inNamespace s.appName
      [(s.setting? Annotation.ingressPath).getD "/"]
  have hjoin := Address.join_host_path (st.domainFor s) hslash
  simp only [place, h, if_true, Option.some.injEq, exists_eq_left', hjoin]
  refine Address.bracketed_of_slash_mem ?_
  rw [String.toList_append]
  exact List.mem_append_right _ (List.mem_of_mem_head? hslash)

theorem locates_urlAt (h : s.setting? Annotation.apiServicePath = none) :
    st.Locates s (s.urlAt (st.place s).fullHost (TlsSettings.protocol (st.tls.enabledFor s))) := by
  refine ⟨Address.bracketed (st.place s).fullHost, by rw [Service.urlAt, h],
    bracketed_fullHost_of_byPath, ?_⟩
  intro hpath
  simp only [place, hpath]
  exact ⟨rfl, rfl⟩

end IngressStrategy

/-! ## The ingress that a service ends with -/

def Ingress.tls? (i : Ingress) : Option (List IngressTls) := i.spec.bind (·.tls)

namespace IngressStrategy

variable {st : IngressStrategy} {s : Service}

/-- TLS is carried over from the existing ingress where the service has none. -/
theorem tls?_ingressFor (existing : Option Ingress) (port : Int32) :
    (st.ingressFor s existing port).tls? =
    if st.tls.enabledFor s then
      some [{ hosts := some [(st.place s).tlsHost], secretName := st.tls.secretFor s.appName }]
    else existing.bind Ingress.tls? := by
  cases existing with
  | none => rfl
  | some i =>
    cases hspec : i.spec with
    | none => simp [ingressFor, Ingress.tls?, hspec]
    | some spec => simp [ingressFor, Ingress.tls?, hspec]

end IngressStrategy

/-- A service without a uid owns what it is marked on by the empty one. -/
theorem Metadata.owner_markedFor (m : Metadata) (s : Service) :
    ∃ owner ∈ (m.markedFor s).ownerReferences.getD [], owner.uid = s.metadata.uid.getD "" := by
  simp only [markedFor, Option.getD_some]
  split
  · next hany => simpa using hany
  · exact ⟨_, List.mem_append_right _ (List.mem_singleton.2 rfl), rfl⟩

namespace IngressStrategy

/-- What holds of an ingress that is written for a service with a URL, in place of another or as the
first. -/
structure Serves (st : IngressStrategy) (s : Service) (existing : Option Ingress) (url : String)
    (i : Ingress) : Prop where
  rule : ∃ p, i.LeadsTo (some (st.place s).host) p ∧ isBound s.name (st.place s).path p
  secure : Address.scheme? url = some "https" → i.tls?.isSome
  insecure : existing.bind Ingress.tls? = none → Address.scheme? url ≠ some "https" → i.tls? = none
  owner : ∀ uid, s.metadata.uid = some uid →
    ∃ owner ∈ i.metadata.ownerReferences.getD [], owner.uid = uid

variable {st : IngressStrategy} {s live : Service} {c : Cluster}

theorem serves_ingressFor {url : String} (h : st.Locates s url) (existing : Option Ingress)
    (port : Int32) :
    st.Serves s existing url (st.ingressFor s existing port) where
  rule := by
    have hpath : isBound s.name (st.place s).path (pathFor s.name port (st.place s).path) := by
      simp [isBound, pathFor, nonEmpty?_path_place]
    exact ⟨_, leadsTo_ingressFor_iff.2 ⟨rfl, .inl rfl⟩, hpath⟩
  secure := by
    intro hsecure
    have htls :=
      TlsSettings.protocol_eq_https_iff.1 (Option.some.inj (h.scheme?.symm.trans hsecure))
    rw [tls?_ingressFor, if_pos htls]
    rfl
  insecure := by
    intro hnone hinsecure
    have htls : ¬st.tls.enabledFor s := fun htls =>
      hinsecure (h.scheme?.trans (congrArg some (TlsSettings.protocol_eq_https_iff.2 htls)))
    rw [tls?_ingressFor, if_neg htls, hnone]
  owner := by
    intro uid huid
    have howned : s.metadata.uid.getD "" = uid := by rw [huid, Option.getD_some]
    exact howned ▸ Metadata.owner_markedFor _ s

/-- A service that is on its path has an ingress with such a path. -/
theorem exists_of_isPlaced (h : st.IsPlaced s c) : ∃ i, c.ingresses.get? s.home = some i ∧
    ∃ host p, i.LeadsTo host p ∧ isBound s.name (st.place s).path p := by
  rw [IsPlaced] at h
  cases hget : c.ingresses.get? s.home with
  | none => simp [hget, boundPaths] at h
  | some i =>
    cases hrules : i.rules with
    | nil => simp [hget, boundPaths, hrules] at h
    | cons rule rules =>
      simp only [hget, boundPaths, Option.map_some, hrules, List.any_eq_true] at h
      obtain ⟨p, hp, hbound⟩ := h
      exact ⟨i, rfl, rule.host, p, ⟨rule, hrules ▸ List.mem_cons_self, rfl, hp⟩, hbound⟩

/-- Exposing a service leaves its ingress as it was, or as it is made for the service. -/
theorem effects_add (hlive : c.services.get? s.key = some live) {e : Exposure}
    (h : st.add s (c.snapshot (.ingress st) s.key.inNamespace) = .ok e) :
    e.service = st.desired s ∧ ∃ after i, c.effects e.writes = .ok after ∧
      after.ingresses.get? s.home = some i ∧
      after.services.get? s.key = some (s.rebase e.service live) ∧
      ((st.IsPlaced s c ∧ c.ingresses.get? s.home = some i) ∨
        ¬st.IsPlaced s c ∧ ∃ port, i = st.ingressFor s (c.ingresses.get? s.home) port) := by
  have hadd : (Strategy.ingress st).add s (c.snapshot (.ingress st) s.key.inNamespace) = .ok e := h
  obtain ⟨ws, hrouting, rfl⟩ := Strategy.add_eq_ok_iff.1 hadd
  refine ⟨rfl, ?_⟩
  -- the patch for the record on the service comes after the routing object, and leaves it alone
  have hrecord (routed : Cluster) (hsame : c.SameButRouting routed)
      (hrouted : c.effects ws = .ok routed) :
      c.effects (Exposure.of s (st.desired s) ws).writes =
        .ok (routed.rebased s (st.desired s) live) :=
    Cluster.effects_append_patchWrites hrouted hsame hlive _
  rcases Strategy.effects_ingress_routing hrouting
    with ⟨hplaced, rfl⟩ | ⟨hplaced, port, -, heffects⟩
  · obtain ⟨i, hi, -⟩ := exists_of_isPlaced hplaced
    exact ⟨_, i, hrecord c rfl rfl, hi, Dict.get?_insert_self _ _ _, .inl ⟨hplaced, hi⟩⟩
  · have hget := c.get?_home_putIngress st s port
    exact ⟨_, _, hrecord (c.putIngress _) rfl heffects, hget, Dict.get?_insert_self _ _ _,
      .inr ⟨hplaced, port, rfl⟩⟩

theorem exists_add (hports : s.ports ≠ []) (st : IngressStrategy) (snapshot : Snapshot) :
    ∃ e, st.add s snapshot = .ok e := by
  cases h : st.routingWrites s snapshot with
  | error failure => exact absurd (Strategy.ports_of_routingWrites_error h) hports
  | ok ws =>
    rw [add, h]
    exact ⟨_, rfl⟩

end IngressStrategy

namespace Sample

/-- The service with an annotation of its own. -/
def annotated (key value : String) : Service :=
  { web with metadata.annotations := some (.ofList [(key, value)]) }

/-- A cluster with one service. -/
def serving (s : Service) : Cluster where
  services := .insert ∅ s.key s

theorem get?_services_serving (s : Service) : (serving s).services.get? s.key = some s :=
  Dict.get?_insert_self _ _ _

/-- An ingress of the service. -/
def webIngress (rules : List IngressRule) (tls : Option (List IngressTls)) : Ingress where
  metadata := { name := some "web", inNamespace := some "ns1" }
  spec := some { rules := some rules, tls }

/-- The rule that the service had under another domain. -/
def formerRule : IngressRule where
  host := some "web.ns1.example.org"
  http := some { paths := [pathToWeb] }

/-- The strategy with certificates that are asked for. -/
def secured : IngressStrategy := { strategy with tls.acme := true }

/-- To expose a service records the URL on it and ends with the ingress. -/
def Ends (st : IngressStrategy) (s : Service) (c : Cluster) (url : String) (i : Ingress) : Prop :=
  ∃ e after, st.add s (c.snapshot (.ingress st) s.key.inNamespace) = .ok e ∧
    c.effects e.writes = .ok after ∧
    e.service.exposedUrl? = some url ∧ after.ingresses.get? s.home = some i

theorem exists_ends {st : IngressStrategy} {s : Service} {c : Cluster} {url : String}
    (hstored : c.services.get? s.key = some s) (hports : s.ports ≠ [])
    (hurl : (st.desired s).exposedUrl? = some url) :
    ∃ i, Ends st s c url i ∧ ((st.IsPlaced s c ∧ c.ingresses.get? s.home = some i) ∨
      ¬st.IsPlaced s c ∧ ∃ port, i = st.ingressFor s (c.ingresses.get? s.home) port) := by
  obtain ⟨e, hadd⟩ :=
    IngressStrategy.exists_add hports st (c.snapshot (.ingress st) s.key.inNamespace)
  obtain ⟨hservice, after, i, heffects, hi, -, hwritten⟩ := IngressStrategy.effects_add hstored hadd
  exact ⟨i, ⟨e, after, hadd, heffects, hservice ▸ hurl, hi⟩, hwritten⟩

/-- Without an ingress before, one is written. -/
theorem exists_ends_serving {st : IngressStrategy} {s : Service} {url : String}
    (hports : s.ports ≠ []) (hurl : (st.desired s).exposedUrl? = some url) :
    ∃ i port, Ends st s (serving s) url i ∧ i = st.ingressFor s none port := by
  obtain ⟨i, hends, hplaced | ⟨-, port, hi⟩⟩ := exists_ends (get?_services_serving s) hports hurl
  · cases hplaced.2
  · exact ⟨i, port, hends, hi⟩

theorem ports_annotated (key value : String) : (annotated key value).ports ≠ [] :=
  List.cons_ne_nil _ _

theorem exposedUrl?_desired_web :
    (strategy.desired web).exposedUrl? = some "http://web.ns1.example.com" := by decide

/-- The domain has changed, and the host of the ingress has not. -/
theorem host_kept : ∃ i,
    Ends strategy web ((serving web).putIngress (webIngress [formerRule] none))
      "http://web.ns1.example.com" i ∧
      (∀ host p, i.LeadsTo host p → host ≠ some "web.ns1.example.com") ∧
      i.metadata.ownerReferences = none := by
  have hget : ((serving web).putIngress (webIngress [formerRule] none)).ingresses.get? web.home =
      some (webIngress [formerRule] none) := by decide
  have hplaced :
      strategy.IsPlaced web ((serving web).putIngress (webIngress [formerRule] none)) := by
    rw [IngressStrategy.IsPlaced, hget]
    decide
  obtain ⟨i, hends, ⟨-, hi⟩ | ⟨hnot, -⟩⟩ := exists_ends (c := (serving web).putIngress _)
    (get?_services_serving web) (List.cons_ne_nil _ _) exposedUrl?_desired_web
  · obtain rfl := Option.some.inj (hget.symm.trans hi)
    refine ⟨_, hends, ?_, rfl⟩
    rintro host p ⟨rule, hrule, rfl, -⟩
    rw [List.mem_singleton.1 hrule]
    decide
  · exact absurd hplaced hnot

/-- The ingress had TLS, and keeps it for a URL without. -/
theorem tls_kept : ∃ i,
    Ends strategy web ((serving web).putIngress (webIngress [] (some [])))
      "http://web.ns1.example.com" i ∧
      i.tls?.isSome := by
  have hget : ((serving web).putIngress (webIngress [] (some []))).ingresses.get? web.home =
      some (webIngress [] (some [])) := by decide
  obtain ⟨i, hends, ⟨hplaced, -⟩ | ⟨-, port, hi⟩⟩ := exists_ends (c := (serving web).putIngress _)
    (get?_services_serving web) (List.cons_ne_nil _ _) exposedUrl?_desired_web
  · rw [IngressStrategy.IsPlaced, hget] at hplaced
    exact absurd hplaced Bool.false_ne_true
  · have hinsecure : ¬strategy.tls.enabledFor web := by decide
    refine ⟨i, hends, ?_⟩
    rw [hi, hget, IngressStrategy.tls?_ingressFor, if_neg hinsecure]
    rfl

/-- Where services are not told apart by path, the path that the service asks for is not in its
URL. -/
theorem path_not_in_url : ∃ i, Ends strategy (annotated Annotation.ingressPath "/admin")
    (serving (annotated Annotation.ingressPath "/admin")) "http://web.ns1.example.com" i ∧
      ∀ host p, i.LeadsTo host p → p.path = some "/admin" := by
  have hurl : (strategy.desired (annotated Annotation.ingressPath "/admin")).exposedUrl? =
      some "http://web.ns1.example.com" := by decide
  have hpath :
      (strategy.place (annotated Annotation.ingressPath "/admin")).path = some "/admin" := by decide
  obtain ⟨i, port, hends, rfl⟩ := exists_ends_serving (ports_annotated _ _) hurl
  refine ⟨_, hends, fun host p hp => ?_⟩
  obtain ⟨-, rfl | hbound⟩ := IngressStrategy.leadsTo_ingressFor_iff.1 hp
  · exact hpath
  · exact absurd hbound List.not_mem_nil

/-- The alias that the service asks for takes the place of its URL, which has no scheme then. -/
theorem url_without_scheme :
    ∃ i, Ends secured (annotated Annotation.exposeHostNameAs Annotation.exposeUrl)
    (serving (annotated Annotation.exposeHostNameAs Annotation.exposeUrl)) "web.ns1.example.com" i ∧
      i.tls?.isSome ∧ Address.scheme? "web.ns1.example.com" = none := by
  have hurl :
      (secured.desired (annotated Annotation.exposeHostNameAs Annotation.exposeUrl)).exposedUrl? =
      some "web.ns1.example.com" := by decide
  obtain ⟨i, port, hends, rfl⟩ := exists_ends_serving (ports_annotated _ _) hurl
  have hsecure :
      secured.tls.enabledFor (annotated Annotation.exposeHostNameAs Annotation.exposeUrl) := by
    decide
  refine ⟨_, hends, ?_, by decide⟩
  rw [IngressStrategy.tls?_ingressFor, if_pos hsecure]
  rfl

end Sample

/-! ## Agreement -/

/-- Exposing a service records a URL with the scheme, the host and the path that the strategy has
for the service, and leaves the service on its path in its ingress. An ingress where it was there
before stays as it was, whatever its host. Any other is written to agree with the URL. -/
theorem recorded_url_agrees {st : IngressStrategy} {s live : Service} {c : Cluster} {e : Exposure}
    (hlive : c.services.get? s.key = some live)
    (hplain : s.setting? Annotation.apiServicePath = none)
    (halias : Service.aliasKey? s.annotations ≠ some Annotation.exposeUrl)
    (hadd : st.add s (c.snapshot (.ingress st) s.key.inNamespace) = .ok e) :
    ∃ url after i, e.service.exposedUrl? = some url ∧ st.Locates s url ∧
      c.effects e.writes = .ok after ∧
      after.services.get? s.key = some (s.rebase e.service live) ∧
      after.ingresses.get? s.home = some i ∧
      (∃ host p, i.LeadsTo host p ∧ IngressStrategy.isBound s.name (st.place s).path p) ∧
      (st.IsPlaced s c → c.ingresses.get? s.home = some i) ∧
      (¬st.IsPlaced s c → st.Serves s (c.ingresses.get? s.home) url i) := by
  obtain ⟨hservice, after, i, heffects, hi, hrecorded, hwritten⟩ :=
    IngressStrategy.effects_add hlive hadd
  have hurl :=
    Service.exposedUrl?_recordUrl halias (st.place s).fullHost
      (TlsSettings.protocol (st.tls.enabledFor s))
  have hlocates : st.Locates s _ := IngressStrategy.locates_urlAt hplain
  refine ⟨_, after, i, hservice ▸ hurl, hlocates, heffects, hrecorded, hi, ?_⟩
  rcases hwritten with ⟨hplaced, hkept⟩ | ⟨hplaced, port, rfl⟩
  · obtain ⟨i', hi', hpath⟩ := IngressStrategy.exists_of_isPlaced hplaced
    obtain rfl : i = i' := Option.some.inj (hkept.symm.trans hi')
    exact ⟨hpath, fun _ => hkept, fun hne => absurd hplaced hne⟩
  · have hserves := IngressStrategy.serves_ingressFor hlocates (c.ingresses.get? s.home) port
    exact ⟨⟨_, hserves.rule⟩, fun h => absurd h hplaced, fun _ => hserves⟩

open Sample in
theorem recorded_url_agrees_web : ∃ e url after i, ¬strategy.IsPlaced web cluster ∧
    strategy.add web (cluster.snapshot (.ingress strategy) web.key.inNamespace) = .ok e ∧
    e.service.exposedUrl? = some url ∧ strategy.Locates web url ∧
    cluster.effects e.writes = .ok after ∧
    after.ingresses.get? web.home = some i ∧ strategy.Serves web none url i := by
  have hplaced : ¬strategy.IsPlaced web cluster := Bool.false_ne_true
  have hports : web.ports ≠ [] := List.cons_ne_nil _ _
  obtain ⟨e, hadd⟩ :=
    IngressStrategy.exists_add hports strategy
      (cluster.snapshot (.ingress strategy) web.key.inNamespace)
  obtain ⟨url, after, i, hurl, hlocates, heffects, -, hi, -, -, hserves⟩ := recorded_url_agrees
    get?_services_cluster (by decide) aliasIsFree_web.ne_exposeUrl hadd
  exact ⟨e, url, after, i, hplaced, hadd, hurl, hlocates, heffects, hi, hserves hplaced⟩

open Sample in
/-- An ingress where a service is on its path keeps its host when the domain changes. One that is
written keeps the TLS that it had, for a URL without, and has the path that the service asks for,
which the URL is without. And a service that asks for its host in place of the URL gets one without
a scheme, with TLS or not. -/
theorem recorded_urls_disagree :
    (∃ i, Ends strategy web ((serving web).putIngress (webIngress [formerRule] none))
      "http://web.ns1.example.com" i ∧
      (∀ host p, i.LeadsTo host p → host ≠ some "web.ns1.example.com") ∧
        i.metadata.ownerReferences = none) ∧
    (∃ i, Ends strategy web ((serving web).putIngress (webIngress [] (some [])))
      "http://web.ns1.example.com" i ∧
      i.tls?.isSome) ∧
    (∃ i, Ends strategy (annotated Annotation.ingressPath "/admin")
        (serving (annotated Annotation.ingressPath "/admin")) "http://web.ns1.example.com" i ∧
      ∀ host p, i.LeadsTo host p → p.path = some "/admin") ∧
    (∃ i, Ends secured (annotated Annotation.exposeHostNameAs Annotation.exposeUrl)
        (serving (annotated Annotation.exposeHostNameAs Annotation.exposeUrl))
          "web.ns1.example.com" i ∧
      i.tls?.isSome ∧ Address.scheme? "web.ns1.example.com" = none) :=
  ⟨host_kept, tls_kept, path_not_in_url, url_without_scheme⟩

end ServiceExposure
