import ServiceExposure.Kube.Metadata

/-! # Nodes

Of a node only its addresses matter.

Left out are its `spec`, and of its status `allocatable`, `capacity`, `conditions`, `config`,
`daemonEndpoints`, `features`, `images`, `nodeInfo`, `phase`, `runtimeHandlers`,
`volumesAttached` and `volumesInUse`. -/

namespace ServiceExposure

structure NodeAddress where
  addressType : String
  address : String
deriving DecidableEq, Repr

namespace NodeAddress

def toJson (a : NodeAddress) : Json :=
  .ofMembers [("type", .string a.addressType), ("address", .string a.address)]

def ofJson? (j : Json) : Option NodeAddress := do
  guard j.isObject
  return {
    addressType := ← j.withDefault? Json.string? "" "type"
    address := ← j.withDefault? Json.string? "" "address" }

end NodeAddress

structure NodeStatus where
  addresses : Option (List NodeAddress) := none
deriving DecidableEq, Repr

namespace NodeStatus

def toJson (s : NodeStatus) : Json :=
  .ofPresent [("addresses", s.addresses.map (.ofList NodeAddress.toJson))]

def ofJson? (j : Json) : Option NodeStatus := do
  guard j.isObject
  return { addresses := ← j.optional? (Json.list? NodeAddress.ofJson?) "addresses" }

end NodeStatus

structure Node where
  metadata : Metadata := {}
  status : Option NodeStatus := none
deriving DecidableEq, Repr, Inhabited

namespace Node

def toJson (n : Node) : Json :=
  .ofPresent (Resource.heading "Node" "v1" n.metadata ++
    [("status", n.status.map NodeStatus.toJson)])

def ofJson? (j : Json) : Option Node := do
  Resource.checked "Node" "v1" j
  return {
    metadata := ← j.withDefault? Metadata.ofJson? {} "metadata"
    status := ← j.optional? NodeStatus.ofJson? "status" }

instance : Resource Node where
  kind := "Node"
  apiVersion := "v1"
  plural := "nodes"
  metadata := Node.metadata
  toJson := toJson
  ofJson? := ofJson?

def name (n : Node) : String := n.metadata.displayName

def addresses (n : Node) : List NodeAddress := (n.status.bind (·.addresses)).getD []

end Node

end ServiceExposure
