import ServiceExposure.Kube.Metadata

/-! # Services

A service gives a name and an address within the cluster to what runs behind its ports.

Left out are its `status`, of a port `appProtocol`, and of the specification
`allocateLoadBalancerNodePorts`, `clusterIPs`, `externalName`, `externalTrafficPolicy`,
`healthCheckNodePort`, `internalTrafficPolicy`, `ipFamilies`, `ipFamilyPolicy`,
`loadBalancerClass`, `loadBalancerSourceRanges`, `publishNotReadyAddresses`, `selector`,
`sessionAffinity`, `sessionAffinityConfig` and `trafficDistribution`. -/

namespace ServiceExposure

/-- A port given by its number or by the name it has on the target. -/
inductive PortReference where
  | number (n : Int32)
  | name (s : String)
deriving DecidableEq, Repr

namespace PortReference

def toJson : PortReference → Json
  | .number n => .int n.toInt
  | .name s => .string s

def ofJson? : Json → Option PortReference
  | .string s => some (.name s)
  | j => j.int32?.map .number

end PortReference

structure ServicePort where
  name : Option String := none
  port : Int32
  nodePort : Option Int32 := none
  targetPort : Option PortReference := none
  protocol : Option String := none
deriving DecidableEq, Repr

namespace ServicePort

def toJson (p : ServicePort) : Json :=
  .ofPresent [
    ("name", p.name.map .string),
    ("port", some (.int p.port.toInt)),
    ("nodePort", p.nodePort.map fun n => .int n.toInt),
    ("targetPort", p.targetPort.map PortReference.toJson),
    ("protocol", p.protocol.map .string)]

def ofJson? (j : Json) : Option ServicePort := do
  guard j.isObject
  return {
    name := ← j.optional? Json.string? "name"
    port := ← j.withDefault? Json.int32? 0 "port"
    nodePort := ← j.optional? Json.int32? "nodePort"
    targetPort := ← j.optional? PortReference.ofJson? "targetPort"
    protocol := ← j.optional? Json.string? "protocol" }

end ServicePort

structure ServiceSpec where
  ports : Option (List ServicePort) := none
  clusterIP : Option String := none
  serviceType : Option String := none
  externalIPs : Option (List String) := none
  loadBalancerIP : Option String := none
deriving DecidableEq, Repr, Inhabited

namespace ServiceSpec

def toJson (s : ServiceSpec) : Json :=
  .ofPresent [
    ("ports", s.ports.map (.ofList ServicePort.toJson)),
    ("clusterIP", s.clusterIP.map .string),
    ("type", s.serviceType.map .string),
    ("externalIPs", s.externalIPs.map .ofStrings),
    ("loadBalancerIP", s.loadBalancerIP.map .string)]

def ofJson? (j : Json) : Option ServiceSpec := do
  guard j.isObject
  return {
    ports := ← j.optional? (Json.list? ServicePort.ofJson?) "ports"
    clusterIP := ← j.optional? Json.string? "clusterIP"
    serviceType := ← j.optional? Json.string? "type"
    externalIPs := ← j.optional? (Json.list? Json.string?) "externalIPs"
    loadBalancerIP := ← j.optional? Json.string? "loadBalancerIP" }

end ServiceSpec

structure Service where
  metadata : Metadata := {}
  spec : Option ServiceSpec := none
deriving DecidableEq, Repr, Inhabited

namespace Service

def toJson (s : Service) : Json :=
  .ofPresent (Resource.heading "Service" "v1" s.metadata ++
    [("spec", s.spec.map ServiceSpec.toJson)])

def ofJson? (j : Json) : Option Service := do
  Resource.checked "Service" "v1" j
  return {
    metadata := ← j.withDefault? Metadata.ofJson? {} "metadata"
    spec := ← j.optional? ServiceSpec.ofJson? "spec" }

instance : Resource Service where
  kind := "Service"
  apiVersion := "v1"
  plural := "services"
  metadata := Service.metadata
  toJson := toJson
  ofJson? := ofJson?

def ports (s : Service) : List ServicePort := (s.spec.bind (·.ports)).getD []

def name (s : Service) : String := s.metadata.displayName

def key (s : Service) : ObjectKey := s.metadata.key

def annotation? (s : Service) (key : String) : Option String := s.metadata.annotation? key

def label? (s : Service) (key : String) : Option String := s.metadata.label? key

/-- The value of an annotation that is present and not empty. -/
def setting? (s : Service) (key : String) : Option String := nonEmpty? (s.annotation? key)

end Service

end ServiceExposure
