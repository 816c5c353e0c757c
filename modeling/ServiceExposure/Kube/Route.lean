import ServiceExposure.Kube.Service

/-! # Routes

A route exposes a service at a host name on OpenShift. The parts of a route are read more strictly
than other objects: a required field must be there. On the other hand each part may also be given
as an array of its fields in order, where optional fields at the end may be left out.

A route has the fields that are here and no others; what else its document holds is passed over. -/

namespace ServiceExposure

/-! ## Parts -/

/-- What a route forwards to. -/
structure RouteTarget where
  kind : String
  name : String
  weight : Option Int32 := none
deriving DecidableEq, Repr

namespace RouteTarget

def service (name : String) : RouteTarget := { kind := "Service", name }

def toJson (t : RouteTarget) : Json :=
  .ofPresent [("kind", some (.string t.kind)), ("name", some (.string t.name)),
    ("weight", t.weight.map fun n => .int n.toInt)]

def ofJson? (j : Json) : Option RouteTarget := do
  match ← j.recordFields? ["kind", "name", "weight"] 2 with
  | [kind, name, weight] =>
    return {
      kind := ← kind.string?
      name := ← name.string?
      weight := ← weight.orNull? Json.int32? }
  | _ => none

end RouteTarget

structure RoutePort where
  targetPort : PortReference
deriving DecidableEq, Repr

namespace RoutePort

def toJson (p : RoutePort) : Json := .ofMembers [("targetPort", p.targetPort.toJson)]

def ofJson? (j : Json) : Option RoutePort := do
  match ← j.recordFields? ["targetPort"] 1 with
  | [targetPort] => return { targetPort := ← PortReference.ofJson? targetPort }
  | _ => none

end RoutePort

structure RouteTls where
  termination : String
  insecureEdgeTerminationPolicy : Option String := none
deriving DecidableEq, Repr

namespace RouteTls

def toJson (t : RouteTls) : Json :=
  .ofPresent [
    ("termination", some (.string t.termination)),
    ("insecureEdgeTerminationPolicy", t.insecureEdgeTerminationPolicy.map .string)]

def ofJson? (j : Json) : Option RouteTls := do
  match ← j.recordFields? ["termination", "insecureEdgeTerminationPolicy"] 1 with
  | [termination, policy] =>
    return {
      termination := ← termination.string?
      insecureEdgeTerminationPolicy := ← policy.orNull? Json.string? }
  | _ => none

end RouteTls

structure RouteSpec where
  host : Option String := none
  path : Option String := none
  target : RouteTarget
  port : Option RoutePort := none
  tls : Option RouteTls := none
deriving DecidableEq, Repr

namespace RouteSpec

def toJson (s : RouteSpec) : Json :=
  .ofPresent [
    ("host", s.host.map .string),
    ("path", s.path.map .string),
    ("to", some s.target.toJson),
    ("port", s.port.map RoutePort.toJson),
    ("tls", s.tls.map RouteTls.toJson)]

def ofJson? (j : Json) : Option RouteSpec := do
  match ← j.recordFields? ["host", "path", "to", "port", "tls"] 3 with
  | [host, path, target, port, tls] =>
    return {
      host := ← host.orNull? Json.string?
      path := ← path.orNull? Json.string?
      target := ← RouteTarget.ofJson? target
      port := ← port.orNull? RoutePort.ofJson?
      tls := ← tls.orNull? RouteTls.ofJson? }
  | _ => none

end RouteSpec

/-! ## Routes -/

structure Route where
  metadata : Metadata := {}
  spec : RouteSpec
deriving DecidableEq, Repr

namespace Route

def toJson (r : Route) : Json :=
  .ofPresent (Resource.heading "Route" "route.openshift.io/v1" r.metadata ++
    [("spec", some r.spec.toJson)])

/-- The kind and version of the document do not matter. -/
def ofJson? (j : Json) : Option Route := do
  match ← j.recordFields? ["metadata", "spec"] 2 with
  | [metadata, spec] =>
    return { metadata := ← Metadata.ofJson? metadata, spec := ← RouteSpec.ofJson? spec }
  | _ => none

instance : Resource Route where
  kind := "Route"
  apiVersion := "route.openshift.io/v1"
  plural := "routes"
  metadata := Route.metadata
  toJson := toJson
  ofJson? := ofJson?

end Route

end ServiceExposure
