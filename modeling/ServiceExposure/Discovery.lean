import ServiceExposure.Config
import ServiceExposure.Store
import ServiceExposure.Strategy

/-! # Discovery

What a configuration leaves open is found out from the cluster: its platform, the domain that
services are exposed under, the address of its node, and the protocol of its API. -/

namespace ServiceExposure

namespace Platform

def detect {m : Type → Type} [Monad m] (store : Store m) : Attempt m Platform := do
  return ofApiPaths
    (← Attempt.within "could not discover the type of your installation" store.apiPaths)

end Platform

/-! ## Nodes -/

namespace Node

def addressOf? (n : Node) (addressType : String) : Option String :=
  (n.addresses.find? fun a => a.addressType = addressType && a.address ≠ "").map (·.address)

/-- The first external address of a node, else its first internal one. -/
def hostIP? (n : Node) : Option String := n.addressOf? "ExternalIP" <|> n.addressOf? "InternalIP"

/-- The address that an annotation of the node provides, by the first such annotation. -/
def providedIP? (n : Node) : Option String :=
  ((n.metadata.annotations.getD ∅).toList.find? fun e =>
    Text.endsWith Annotation.providedNodeIP e.1 && e.2 ≠ "").map (·.2)

/-- The address that a domain is made of. -/
def externalIP (n : Node) : Except Failure String :=
  match n.providedIP? <|> n.hostIP? with
  | some ip => .ok ip
  | none => .error { cause := .noNodeAddress n.name }

/-- Whether the node is labelled as the one whose address the cluster is reached at. -/
def holdsExternalIP (n : Node) : Bool := n.metadata.label? Annotation.externalIP = some "true"

/-- Whether the node is the one of a development cluster. -/
def isDevelopment (n : Node) : Bool := ["minikube", "minishift"].contains n.name

end Node

/-! ## Domains -/

/-- The pod of a balancer whose environment tells its address. -/
def balancerPod : ObjectKey := ⟨"stackpoint-system", "spc-balancer"⟩

def Pod.balancerIP? (p : Pod) : Option String :=
  let env := (p.containers.filter (·.name = balancerPod.name)).flatMap fun c => c.env.getD []
  nonEmpty? ((env.find? (·.name = "BALANCER_IP")).bind (·.value))

/-- A domain under which every name leads to the address. -/
def wildcardDomain (ip : String) : String := ip ++ ".nip.io"

/-- The only element of a list. -/
def only? : List α → Option α
  | [a] => some a
  | _ => none

/-- The node whose address makes the domain: the only node if it is a development cluster, else the
only labelled one. -/
def domainNode? (nodes : List Node) : Option Node :=
  (only? nodes).filter Node.isDevelopment <|> only? (nodes.filter Node.holdsExternalIP)

variable {m : Type → Type} [Monad m]

/-- The domain of a cluster whose configuration gives none. A balancer that cannot be looked up does
not count. -/
def discoverDomain (store : Store m) : Attempt m String := do
  let nodes ← Attempt.within "failed to list nodes" store.nodes
  match domainNode? nodes with
  | some node => wildcardDomain <$> Attempt.ofExcept node.externalIP
  | none =>
    match ← ExceptT.lift (store.pod? balancerPod).run with
    | .ok (some pod) =>
      match pod.balancerIP? with
      | some ip => return wildcardDomain ip
      | none => Attempt.fail .noDomain
    -- neither a pod that is missing nor a look-up that fails is reported as such
    | _ => Attempt.fail .noDomain

/-! ## The node of node ports -/

/-- The address of the only node: the one it is annotated with, else one it reports. -/
def soleNodeIP (nodes : List Node) : Except Failure String :=
  match nodes with
  | [node] =>
    match nonEmpty? (node.metadata.annotation? Annotation.externalIP) <|> node.hostIP? with
    | some ip => .ok ip
    | none => .error { contexts := ["cannot discover node IP"], cause := .noNodeAddress node.name }
  | _ => .error { cause := .notSingleNode nodes.length }

/-- The node port strategy for a configured address, or else for the only node. -/
def Strategy.resolveNodePort (configured : Option String) (store : Store m) : Attempt m Strategy :=
  match configured with
  | some ip => return .nodePort ip
  | none => do
    let nodes ← Attempt.within "failed to list nodes" store.nodes
    .nodePort <$> Attempt.ofExcept (soleNodeIP nodes)

/-! ## The API's protocol -/

def apiService : ObjectKey := ⟨"default", "kubernetes"⟩

/-- The protocol that the ports of a service tell; `https` wins, and is taken where they tell
none. -/
def Service.protocol (s : Service) : String :=
  let has (name : String) (port : Int32) : Bool :=
    s.ports.any fun p => p.name = some name || p.port = port
  if !has "https" 443 && has "http" 80 then "http" else "https"

def discoverApiProtocol (store : Store m) : m String := do
  match ← (store.service? apiService).run with
  | .ok (some s) => return s.protocol
  | _ => return "https"

/-! ## Selection -/

/-- The configured exposer, or else the platform's. -/
def Config.exposerOn (c : Config) (platform : Platform) : Except Failure Exposer :=
  match nonEmpty? c.exposer with
  | none => .ok platform.defaultExposer
  | some name =>
    if Text.sameIgnoringCase name "auto" then .ok platform.defaultExposer
    else
      match Exposer.ofName? name with
      | some exposer => .ok exposer
      | none => .error { cause := .unknownExposer name }

/-- The configured domain, or else one that is discovered. -/
def Config.resolveDomain (c : Config) (store : Store m) : Attempt m String :=
  match nonEmpty? c.domain with
  | some domain => return domain
  | none => Attempt.within "failed to get a domain" (discoverDomain store)

/-- The strategy that a configuration describes. Routes by path under a configured host need no
domain. -/
def Strategy.select (c : Config) (store : Store m) : Attempt m Strategy := do
  let platform ← Platform.detect store
  let exposer ← Attempt.ofExcept (c.exposerOn platform)
  -- a configured exposer is checked, too
  if !platform.supports exposer then Attempt.fail (.unsupported exposer platform)
  else
    match exposer with
    | .ingress => do
      let domain ← c.resolveDomain store
      .ingress <$> Attempt.ofExcept (IngressStrategy.ofConfig c domain)
    | .route => do
      let domain ←
        if c.routeUsePath && (nonEmpty? c.routeHost).isSome then pure ((nonEmpty? c.domain).getD "")
        else c.resolveDomain store
      .route <$> Attempt.ofExcept (RouteStrategy.ofConfig c domain)
    | .nodePort =>
      Attempt.within "could not create node port strategy"
        (resolveNodePort (nonEmpty? c.nodeIP) store)
    | .loadBalancer => return .loadBalancer

end ServiceExposure
