import ServiceExposure.Kube.Metadata

/-! # Ingresses

An ingress leads requests for the paths of a host to services.

Left out are the `status` of an ingress, and the `apiGroup` of a backend that is no service. -/

namespace ServiceExposure

/-! ## Backends -/

structure BackendPort where
  name : Option String := none
  number : Option Int32 := none
deriving DecidableEq, Repr

namespace BackendPort

def toJson (p : BackendPort) : Json :=
  .ofPresent [("name", p.name.map .string), ("number", p.number.map fun n => .int n.toInt)]

def ofJson? (j : Json) : Option BackendPort := do
  guard j.isObject
  return {
    name := ← j.optional? Json.string? "name"
    number := ← j.optional? Json.int32? "number" }

end BackendPort

structure ServiceBackend where
  name : String
  port : Option BackendPort := none
deriving DecidableEq, Repr

namespace ServiceBackend

def toJson (b : ServiceBackend) : Json :=
  .ofPresent [("name", some (.string b.name)), ("port", b.port.map BackendPort.toJson)]

def ofJson? (j : Json) : Option ServiceBackend := do
  guard j.isObject
  return {
    name := ← j.withDefault? Json.string? "" "name"
    port := ← j.optional? BackendPort.ofJson? "port" }

end ServiceBackend

/-- A backend that is another object of the namespace. -/
structure ResourceBackend where
  kind : String
  name : String
deriving DecidableEq, Repr

namespace ResourceBackend

def toJson (b : ResourceBackend) : Json :=
  .ofMembers [("kind", .string b.kind), ("name", .string b.name)]

def ofJson? (j : Json) : Option ResourceBackend := do
  guard j.isObject
  return {
    kind := ← j.withDefault? Json.string? "" "kind"
    name := ← j.withDefault? Json.string? "" "name" }

end ResourceBackend

structure IngressBackend where
  service : Option ServiceBackend := none
  resource : Option ResourceBackend := none
deriving DecidableEq, Repr, Inhabited

namespace IngressBackend

def toJson (b : IngressBackend) : Json :=
  .ofPresent [("service", b.service.map ServiceBackend.toJson),
    ("resource", b.resource.map ResourceBackend.toJson)]

def ofJson? (j : Json) : Option IngressBackend := do
  guard j.isObject
  return {
    service := ← j.optional? ServiceBackend.ofJson? "service"
    resource := ← j.optional? ResourceBackend.ofJson? "resource" }

end IngressBackend

/-! ## Rules -/

structure IngressPath where
  path : Option String := none
  pathType : String
  backend : IngressBackend
deriving DecidableEq, Repr

namespace IngressPath

def toJson (p : IngressPath) : Json :=
  .ofPresent [
    ("path", p.path.map .string),
    ("pathType", some (.string p.pathType)),
    ("backend", some p.backend.toJson)]

def ofJson? (j : Json) : Option IngressPath := do
  guard j.isObject
  return {
    path := ← j.optional? Json.string? "path"
    pathType := ← j.withDefault? Json.string? "" "pathType"
    backend := ← j.withDefault? IngressBackend.ofJson? {} "backend" }

end IngressPath

structure HttpRule where
  paths : List IngressPath
deriving DecidableEq, Repr

namespace HttpRule

def toJson (r : HttpRule) : Json := .ofMembers [("paths", .ofList IngressPath.toJson r.paths)]

def ofJson? (j : Json) : Option HttpRule := do
  guard j.isObject
  return { paths := ← j.withDefault? (Json.list? IngressPath.ofJson?) [] "paths" }

end HttpRule

structure IngressRule where
  host : Option String := none
  http : Option HttpRule := none
deriving DecidableEq, Repr

namespace IngressRule

def toJson (r : IngressRule) : Json :=
  .ofPresent [("host", r.host.map .string), ("http", r.http.map HttpRule.toJson)]

def ofJson? (j : Json) : Option IngressRule := do
  guard j.isObject
  return {
    host := ← j.optional? Json.string? "host"
    http := ← j.optional? HttpRule.ofJson? "http" }

def paths (r : IngressRule) : List IngressPath := (r.http.map (·.paths)).getD []

end IngressRule

structure IngressTls where
  hosts : Option (List String) := none
  secretName : Option String := none
deriving DecidableEq, Repr

namespace IngressTls

def toJson (t : IngressTls) : Json :=
  .ofPresent [("hosts", t.hosts.map .ofStrings), ("secretName", t.secretName.map .string)]

def ofJson? (j : Json) : Option IngressTls := do
  guard j.isObject
  return {
    hosts := ← j.optional? (Json.list? Json.string?) "hosts"
    secretName := ← j.optional? Json.string? "secretName" }

end IngressTls

/-! ## Ingresses -/

structure IngressSpec where
  ingressClassName : Option String := none
  defaultBackend : Option IngressBackend := none
  rules : Option (List IngressRule) := none
  tls : Option (List IngressTls) := none
deriving DecidableEq, Repr, Inhabited

namespace IngressSpec

def toJson (s : IngressSpec) : Json :=
  .ofPresent [
    ("ingressClassName", s.ingressClassName.map .string),
    ("defaultBackend", s.defaultBackend.map IngressBackend.toJson),
    ("rules", s.rules.map (.ofList IngressRule.toJson)),
    ("tls", s.tls.map (.ofList IngressTls.toJson))]

def ofJson? (j : Json) : Option IngressSpec := do
  guard j.isObject
  return {
    ingressClassName := ← j.optional? Json.string? "ingressClassName"
    defaultBackend := ← j.optional? IngressBackend.ofJson? "defaultBackend"
    rules := ← j.optional? (Json.list? IngressRule.ofJson?) "rules"
    tls := ← j.optional? (Json.list? IngressTls.ofJson?) "tls" }

end IngressSpec

structure Ingress where
  metadata : Metadata := {}
  spec : Option IngressSpec := none
deriving DecidableEq, Repr, Inhabited

namespace Ingress

def toJson (i : Ingress) : Json :=
  .ofPresent (Resource.heading "Ingress" "networking.k8s.io/v1" i.metadata ++
    [("spec", i.spec.map IngressSpec.toJson)])

def ofJson? (j : Json) : Option Ingress := do
  Resource.checked "Ingress" "networking.k8s.io/v1" j
  return {
    metadata := ← j.withDefault? Metadata.ofJson? {} "metadata"
    spec := ← j.optional? IngressSpec.ofJson? "spec" }

instance : Resource Ingress where
  kind := "Ingress"
  apiVersion := "networking.k8s.io/v1"
  plural := "ingresses"
  metadata := Ingress.metadata
  toJson := toJson
  ofJson? := ofJson?

def rules (i : Ingress) : List IngressRule := (i.spec.bind (·.rules)).getD []

end Ingress

end ServiceExposure
