import ServiceExposure.Text.Cut

/-! # Platforms and exposers -/

namespace ServiceExposure

/-- A way to expose services. -/
inductive Exposer where
  | ingress
  | nodePort
  | loadBalancer
  | route
deriving DecidableEq, Repr

namespace Exposer

def name : Exposer → String
  | ingress => "ingress"
  | nodePort => "nodeport"
  | loadBalancer => "loadbalancer"
  | route => "route"

/-- Reads a name in any case. -/
def ofName? (text : String) : Option Exposer :=
  [ingress, nodePort, loadBalancer, route].find? fun e => Text.sameIgnoringCase text e.name

end Exposer

inductive Platform where
  | kubernetes
  | openShift
deriving DecidableEq, Repr

namespace Platform

def name : Platform → String
  | kubernetes => "Kubernetes"
  | openShift => "OpenShift"

/-- Only OpenShift serves this path. -/
def openShiftPath : String := "/oapi"

/-- Told from the paths that the API serves. -/
def ofApiPaths (paths : List String) : Platform :=
  if paths.contains openShiftPath then openShift else kubernetes

def defaultExposer : Platform → Exposer
  | kubernetes => .ingress
  | openShift => .route

/-- Routes exist on OpenShift only, where in turn ingresses are not used. -/
def supports : Platform → Exposer → Bool
  | kubernetes, .route => false
  | openShift, .ingress => false
  | _, _ => true

end Platform

end ServiceExposure
