import ServiceExposure.Proofs.AddressText
import ServiceExposure.Proofs.Namespace

/-! # Strategies settle

Each strategy decides two things: what its routing object has to be (`Strategy.routing`) and what
the service has to be (`Strategy.desired`). Once the object is written there is nothing left to
write for it, and the service that was recorded asks for the same as the one before. -/

namespace ServiceExposure

/-! ## Annotations -/

namespace Annotation

/-- The annotations that mean something to the controller. -/
def keys : List String :=
  [expose.1, inject.1, exposeUrl, exposeHostNameAs, apiServicePath, exposePort, ingressName,
  hostName, ingressPath, pathMode, useInternalDomain, ingressAnnotations, skipTls,
  generatedBy.1, ingressClass, nginxIngressClass, tlsAcme, externalIP, providedNodeIP,
  urlProtocolKey, urlKey, hostKey, pathKey, clusterIPKey, clusterIPPortKey, clusterIPPortIfEmptyKey,
  apiServerKey, apiServerUrlKey, apiServerProtocolKey, consoleUrlKey, configYaml, updateOnChange]

end Annotation

namespace Service

/-- The alias that a service names for its host, if any, has no other meaning. -/
def AliasIsFree (s : Service) : Prop :=
  ∀ other, aliasKey? s.annotations = some other → other ∉ Annotation.keys

theorem annotation?_eq (s : Service) (key : String) :
    s.annotation? key = s.annotations.get? key := by
  cases h : s.metadata.annotations <;> simp [annotation?, Metadata.annotation?, annotations, h]

@[simp] theorem annotations_withAnnotations (s : Service) (annotations : StringDict) :
    (s.withAnnotations annotations).annotations = annotations := rfl

theorem aliasKey?_insert {annotations : StringDict} {key : String}
    (h : key ≠ Annotation.exposeHostNameAs) (value : String) :
    aliasKey? (annotations.insert key value) = aliasKey? annotations := by
  rw [aliasKey?, aliasKey?, Dict.get?_insert_of_ne _ h]

theorem annotations_recordUrl (s : Service) (host protocol : String) :
    (s.recordUrl host protocol).annotations =
      let recorded := s.annotations.insert Annotation.exposeUrl (s.urlAt host protocol)
      match aliasKey? s.annotations with
      | some key => recorded.insert key host
      | none => recorded := by
  have hne : Annotation.exposeUrl ≠ Annotation.exposeHostNameAs := by decide
  cases h : aliasKey? s.annotations <;>
    simp only [recordUrl, annotations_withAnnotations, aliasKey?_insert hne, h]

/-- To record a URL touches the URL and the alias only. -/
theorem annotation?_recordUrl {s : Service} {key : String} (hurl : key ≠ Annotation.exposeUrl)
    (halias : ∀ other, aliasKey? s.annotations = some other → other ≠ key)
    (host protocol : String) :
    (s.recordUrl host protocol).annotation? key = s.annotation? key := by
  rw [annotation?_eq, annotation?_eq, annotations_recordUrl]
  cases h : aliasKey? s.annotations with
  | none => exact Dict.get?_insert_of_ne _ hurl.symm _
  | some other =>
    simp only
    rw [Dict.get?_insert_of_ne _ (halias other h), Dict.get?_insert_of_ne _ hurl.symm]

end Service

/-! ## Services that ask for the same -/

/-- Two services that differ in what is recorded on them, and in how they are typed, only. -/
structure Service.Alike (s t : Service) : Prop where
  metadata : ∃ annotations, t.metadata = { s.metadata with annotations }
  annotation? : ∀ key ∈ Annotation.keys, key ≠ Annotation.exposeUrl →
    t.annotation? key = s.annotation? key
  ports : t.ports = s.ports

namespace Service.Alike

theorem refl (s : Service) : Alike s s := ⟨⟨_, rfl⟩, fun _ _ _ => rfl, rfl⟩

theorem trans {s t u : Service} (h : Alike s t) (h' : Alike t u) : Alike s u where
  metadata := by
    obtain ⟨annotations, ht⟩ := h.metadata
    obtain ⟨annotations', hu⟩ := h'.metadata
    exact ⟨annotations', by rw [hu, ht]⟩
  annotation? key hkey hurl := (h'.annotation? key hkey hurl).trans (h.annotation? key hkey hurl)
  ports := h'.ports.trans h.ports

theorem recordUrl {s : Service} (h : s.AliasIsFree) (host protocol : String) :
    Alike s (s.recordUrl host protocol) where
  metadata := ⟨_, rfl⟩
  annotation? _ hkey hurl :=
    annotation?_recordUrl hurl (fun other halias heq => h other halias (heq ▸ hkey)) host protocol
  ports := rfl

variable {s t : Service} (h : Alike s t)
include h

theorem setting? (key : String) (hkey : key ∈ Annotation.keys) (hurl : key ≠ Annotation.exposeUrl) :
    t.setting? key = s.setting? key := by
  rw [Service.setting?, Service.setting?, h.annotation? key hkey hurl]

theorem key : t.key = s.key := by
  obtain ⟨annotations, ht⟩ := h.metadata
  rw [Service.key, ht]
  rfl

theorem name : t.name = s.name := congrArg ObjectKey.name h.key

theorem uid : t.metadata.uid = s.metadata.uid := by
  obtain ⟨annotations, ht⟩ := h.metadata
  rw [ht]

theorem inNamespace : t.metadata.inNamespace = s.metadata.inNamespace := by
  obtain ⟨annotations, ht⟩ := h.metadata
  rw [ht]

theorem label? (label : String) : t.label? label = s.label? label := by
  obtain ⟨annotations, ht⟩ := h.metadata
  rw [Service.label?, ht]
  rfl

theorem isExposed : t.isExposed = s.isExposed := by
  rw [Service.isExposed, Service.isExposed, h.label?,
    h.annotation? Annotation.expose.1 (by decide) (by decide),
    h.annotation? Annotation.inject.1 (by decide) (by decide)]

theorem appName : t.appName = s.appName := by
  rw [Service.appName, Service.appName,
    h.setting? Annotation.ingressName (by decide) (by decide), h.name, h.label?]

theorem exposedPort : t.exposedPort = s.exposedPort := by
  rw [Service.exposedPort, Service.exposedPort, h.ports,
    h.setting? Annotation.exposePort (by decide) (by decide), h.key]

theorem protocolAt (host : String) : t.protocolAt host = s.protocolAt host := by
  rw [Service.protocolAt, Service.protocolAt, h.ports]

theorem urlAt (host protocol : String) : t.urlAt host protocol = s.urlAt host protocol := by
  rw [Service.urlAt, Service.urlAt, h.setting? Annotation.apiServicePath (by decide) (by decide)]

theorem enabledFor (tls : TlsSettings) : tls.enabledFor t = tls.enabledFor s := by
  rw [TlsSettings.enabledFor, TlsSettings.enabledFor,
    h.annotation? Annotation.skipTls (by decide) (by decide)]

theorem markedFor (m : Metadata) : m.markedFor t = m.markedFor s := by
  rw [Metadata.markedFor, Metadata.markedFor, h.uid, h.name]

theorem aliasKey? : Service.aliasKey? t.annotations = Service.aliasKey? s.annotations := by
  have hkey := h.annotation? Annotation.exposeHostNameAs (by decide) (by decide)
  rw [annotation?_eq, annotation?_eq] at hkey
  rw [Service.aliasKey?, Service.aliasKey?, hkey]

end Service.Alike

namespace Service

/-- What is recorded already stays. -/
theorem recordUrl_eq_self {s : Service} {host protocol : String}
    (hpresent : s.metadata.annotations = some s.annotations)
    (hurl : s.annotations.get? Annotation.exposeUrl = some (s.urlAt host protocol))
    (halias : ∀ other, aliasKey? s.annotations = some other →
      s.annotations.get? other = some host) :
    s.recordUrl host protocol = s := by
  have hsame : s.withAnnotations s.annotations = s := by
    rw [withAnnotations, ← hpresent]
  rw [recordUrl, Dict.insert_of_get? hurl]
  cases h : aliasKey? s.annotations with
  | none => exact hsame
  | some other =>
    simp only [Dict.insert_of_get? (halias other h)]
    exact hsame

theorem AliasIsFree.ne_exposeUrl {s : Service} (h : s.AliasIsFree) :
    aliasKey? s.annotations ≠ some Annotation.exposeUrl :=
  fun halias => h _ halias (by decide)

theorem get?_exposeUrl_recordUrl {s : Service}
    (h : aliasKey? s.annotations ≠ some Annotation.exposeUrl) (host protocol : String) :
    (s.recordUrl host protocol).annotations.get? Annotation.exposeUrl =
      some (s.urlAt host protocol) := by
  rw [annotations_recordUrl]
  cases hkey : aliasKey? s.annotations with
  | none => simp
  | some other =>
    have hne : other ≠ Annotation.exposeUrl := fun heq => h (heq ▸ hkey)
    simp [Dict.get?_insert_of_ne _ hne]

theorem urlAt_ne_empty (s : Service) (host protocol : String) : s.urlAt host protocol ≠ "" := by
  rw [urlAt]
  cases s.setting? Annotation.apiServicePath with
  | some path => exact Address.join_ne_empty _ _ _
  | none =>
    intro h
    have hlength := congrArg String.length h
    simp [String.length_append] at hlength

/-- A recorded URL can be read back. -/
theorem exposedUrl?_recordUrl {s : Service}
    (h : aliasKey? s.annotations ≠ some Annotation.exposeUrl) (host protocol : String) :
    (s.recordUrl host protocol).exposedUrl? = some (s.urlAt host protocol) := by
  rw [exposedUrl?, setting?, annotation?_eq, get?_exposeUrl_recordUrl h]
  simp [nonEmpty?, urlAt_ne_empty]

theorem recordUrl_again {s : Service} (h : s.AliasIsFree) (host protocol : String) :
    (s.recordUrl host protocol).recordUrl host protocol = s.recordUrl host protocol := by
  have halike := Alike.recordUrl h host protocol
  refine recordUrl_eq_self rfl ?_ fun other halias => ?_
  · rw [halike.urlAt, get?_exposeUrl_recordUrl h.ne_exposeUrl]
  · rw [halike.aliasKey?] at halias
    simp [annotations_recordUrl, halias]

theorem AliasIsFree.alike {s t : Service} (h : s.AliasIsFree) (halike : Alike s t) :
    t.AliasIsFree := by
  intro other halias
  rw [halike.aliasKey?] at halias
  exact h other halias

end Service

/-! ## Decisions -/

/-- The service as a strategy wants it. -/
def IngressStrategy.desired (st : IngressStrategy) (s : Service) : Service :=
  s.recordUrl (st.place s).fullHost (TlsSettings.protocol (st.tls.enabledFor s))

/-- The address that a route gives a service. -/
def RouteStrategy.fullHost (st : RouteStrategy) (s : Service) : String :=
  match (st.place s).2 with
  | some path => Address.join [(st.place s).1, path]
  | none => (st.place s).1

def RouteStrategy.desired (st : RouteStrategy) (s : Service) : Service :=
  s.recordUrl (st.fullHost s) (TlsSettings.protocol (st.tls.enabledFor s))

namespace Service

def asNodePort (s : Service) : Service :=
  { s with
    spec := some { s.spec.getD {} with serviceType := some "NodePort", externalIPs := none } }

def asLoadBalancer (s : Service) : Service :=
  { s with spec := some { s.spec.getD {} with serviceType := some "LoadBalancer" } }

/-- The service with the URL for its address, once it has one. -/
def recordAt? (s : Service) (address : Option String) : Service :=
  match address with
  | some host => s.recordUrl host (s.protocolAt host)
  | none => s

/-- Where the first port is reached on a node, once it has been given a port there. -/
def nodeAddress? (s : Service) (nodeIP : String) : Option String :=
  let nodePort := (s.ports.head?.bind (·.nodePort)).getD 0
  if 0 < nodePort then some (Address.joinHostPort nodeIP nodePort) else none

def balancerAddress? (s : Service) : Option String := nonEmpty? (s.spec.getD {}).loadBalancerIP

end Service

namespace Strategy

def desired : Strategy → Service → Service
  | ingress st, s => st.desired s
  | nodePort nodeIP, s => s.asNodePort.recordAt? (s.nodeAddress? nodeIP)
  | loadBalancer, s => s.asLoadBalancer.recordAt? s.balancerAddress?
  | route st, s => st.desired s

/-- The writes for the routing object, unless the service cannot be exposed. -/
def routing : Strategy → Service → Snapshot → Except Failure (List Write)
  | ingress st, s, snapshot => st.routingWrites s snapshot
  | nodePort _, s, _ =>
    match s.ports with
    | [] => .error { cause := .noPorts s.key }
    | [_] => .ok []
    | ports => .error { cause := .multiplePorts s.key ports.length }
  | loadBalancer, _, _ => .ok []
  | route st, s, snapshot => do
    let port ← s.exposedPort
    let existing := snapshot.routes.get? s.appName
    return RouteStrategy.routingWrites existing (st.routeFor s existing port)

theorem add_eq (st : Strategy) (s : Service) (snapshot : Snapshot) :
    st.add s snapshot = (st.routing s snapshot).map (Exposure.of s (st.desired s)) := by
  cases st with
  | ingress st =>
    simp only [add, IngressStrategy.add, routing, desired, IngressStrategy.desired]
    cases st.routingWrites s snapshot <;> rfl
  | nodePort nodeIP =>
    simp only [add, addNodePort, routing, desired, Service.nodeAddress?]
    rcases s.ports with _ | ⟨port, _ | ⟨_, _⟩⟩
    · rfl
    · by_cases hport : 0 < port.nodePort.getD 0 <;>
        simp only [List.head?_cons, Option.bind_some, hport, if_true, if_false] <;> rfl
    · rfl
  | loadBalancer =>
    simp only [add, addLoadBalancer, routing, desired, Service.balancerAddress?]
    cases nonEmpty? (s.spec.getD {}).loadBalancerIP <;> rfl
  | route st =>
    simp only [add, RouteStrategy.add, routing, desired, RouteStrategy.desired]
    cases s.exposedPort <;> rfl

theorem add_eq_ok_iff {st : Strategy} {s : Service} {snapshot : Snapshot} {e : Exposure} :
    st.add s snapshot = .ok e ↔
    ∃ ws, st.routing s snapshot = .ok ws ∧ .of s (st.desired s) ws = e := by
  rw [add_eq]
  cases st.routing s snapshot <;> simp [Except.map]

end Strategy

/-! ## The recorded service asks for the same -/

namespace Service.Alike

variable {s t : Service} (h : Alike s t)
include h

theorem ingressPlace (st : IngressStrategy) : st.place t = st.place s := by
  have hdomain : st.domainFor t = st.domainFor s := by
    rw [IngressStrategy.domainFor, IngressStrategy.domainFor,
      h.annotation? Annotation.useInternalDomain (by decide) (by decide)]
  have hpath : st.routesByPath t = st.routesByPath s := by
    rw [IngressStrategy.routesByPath, IngressStrategy.routesByPath,
      h.setting? Annotation.pathMode (by decide) (by decide)]
  simp only [IngressStrategy.place, hdomain, hpath, h.appName, h.key,
    h.setting? Annotation.hostName (by decide) (by decide),
    h.setting? Annotation.ingressPath (by decide) (by decide)]

theorem ingressFor (st : IngressStrategy) (existing : Option Ingress) (port : Int32) :
    st.ingressFor t existing port = st.ingressFor s existing port := by
  have hextra : IngressStrategy.extraAnnotations t = IngressStrategy.extraAnnotations s := by
    rw [IngressStrategy.extraAnnotations, IngressStrategy.extraAnnotations,
      h.annotation? Annotation.ingressAnnotations (by decide) (by decide)]
  simp only [IngressStrategy.ingressFor, IngressStrategy.annotate, hextra, h.appName, h.name,
    h.ingressPlace, h.inNamespace, h.markedFor, h.enabledFor]

theorem routePlace (st : RouteStrategy) : st.place t = st.place s := by
  simp only [RouteStrategy.place, h.appName, h.key,
    h.setting? Annotation.hostName (by decide) (by decide)]

theorem routeFor (st : RouteStrategy) (existing : Option Route) (port : Int32) :
    st.routeFor t existing port = st.routeFor s existing port := by
  have htarget : RouteStrategy.targetPort t port = RouteStrategy.targetPort s port := by
    rw [RouteStrategy.targetPort, RouteStrategy.targetPort, h.ports]
  simp only [RouteStrategy.routeFor, h.routePlace, h.appName, h.name, h.inNamespace, h.markedFor,
    h.enabledFor, htarget]

theorem nodeAddress? (nodeIP : String) : t.nodeAddress? nodeIP = s.nodeAddress? nodeIP := by
  rw [Service.nodeAddress?, Service.nodeAddress?, h.ports]

theorem routing (st : Strategy) (snapshot : Snapshot) :
    st.routing t snapshot = st.routing s snapshot := by
  cases st with
  | ingress st =>
    simp only [Strategy.routing, IngressStrategy.routingWrites, h.appName, h.name, h.ingressPlace,
      h.exposedPort, h.ingressFor]
  | nodePort nodeIP => simp only [Strategy.routing, h.ports, h.key]
  | loadBalancer => rfl
  | route st => simp only [Strategy.routing, h.appName, h.exposedPort, h.routeFor]

end Service.Alike

namespace Service

theorem alike_asNodePort (s : Service) : Alike s s.asNodePort :=
  ⟨⟨_, rfl⟩, fun _ _ _ => rfl, by cases h : s.spec <;> simp [ports, asNodePort, h]⟩

theorem alike_asLoadBalancer (s : Service) : Alike s s.asLoadBalancer :=
  ⟨⟨_, rfl⟩, fun _ _ _ => rfl, by cases h : s.spec <;> simp [ports, asLoadBalancer, h]⟩

theorem alike_recordAt? {s : Service} (h : s.AliasIsFree) (address : Option String) :
    Alike s (s.recordAt? address) := by
  cases address with
  | none => exact .refl s
  | some host => exact .recordUrl h host _

theorem recordAt?_again {s : Service} (h : s.AliasIsFree) (address : Option String) :
    (s.recordAt? address).recordAt? address = s.recordAt? address := by
  cases address with
  | none => rfl
  | some host =>
    simp only [recordAt?, (Alike.recordUrl h host _).protocolAt]
    exact recordUrl_again h host _

end Service

namespace Strategy

variable {s : Service}

theorem alike_desired (st : Strategy) (h : s.AliasIsFree) : Service.Alike s (st.desired s) := by
  cases st with
  | ingress st => exact .recordUrl h _ _
  | nodePort nodeIP =>
    exact s.alike_asNodePort.trans (Service.alike_recordAt? (h.alike s.alike_asNodePort) _)
  | loadBalancer =>
    exact s.alike_asLoadBalancer.trans (Service.alike_recordAt? (h.alike s.alike_asLoadBalancer) _)
  | route st => exact .recordUrl h _ _

/-- The wanted service is the one that it is itself wanted to be. -/
theorem desired_again (st : Strategy) (h : s.AliasIsFree) :
    st.desired (st.desired s) = st.desired s := by
  have halike := st.alike_desired h
  cases st with
  | ingress st =>
    simp only [desired, IngressStrategy.desired] at halike ⊢
    rw [halike.ingressPlace, halike.enabledFor]
    exact Service.recordUrl_again h _ _
  | nodePort nodeIP =>
    have hfree := h.alike s.alike_asNodePort
    simp only [desired] at halike ⊢
    -- the type and the addresses of the service are set already
    have htyped : (s.asNodePort.recordAt? (s.nodeAddress? nodeIP)).asNodePort =
        s.asNodePort.recordAt? (s.nodeAddress? nodeIP) := by
      cases s.nodeAddress? nodeIP <;> rfl
    rw [halike.nodeAddress?, htyped, Service.recordAt?_again hfree]
  | loadBalancer =>
    have hfree := h.alike s.alike_asLoadBalancer
    simp only [desired]
    -- the balancer address stands in the part of the service that is left alone
    have haddress :
        (s.asLoadBalancer.recordAt? s.balancerAddress?).balancerAddress? = s.balancerAddress? := by
      cases hip : s.balancerAddress? <;> exact hip
    have htyped : (s.asLoadBalancer.recordAt? s.balancerAddress?).asLoadBalancer =
        s.asLoadBalancer.recordAt? s.balancerAddress? := by
      cases s.balancerAddress? <;> rfl
    rw [haddress, htyped, Service.recordAt?_again hfree]
  | route st =>
    simp only [desired, RouteStrategy.desired, RouteStrategy.fullHost] at halike ⊢
    rw [halike.routePlace, halike.enabledFor]
    exact Service.recordUrl_again h _ _

end Strategy

end ServiceExposure
