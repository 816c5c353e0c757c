import ServiceExposure.Json.MergePatch
import ServiceExposure.Shelf
import ServiceExposure.Store

/-! # Clusters in memory

A cluster as the objects that it stores. Calls can be told to fail, and writes are remembered. -/

namespace ServiceExposure

/-! ## Kinds of objects -/

inductive ObjectKind where
  | node | pod | service | ingress | route | configMap | deployment
deriving DecidableEq, Repr

namespace ObjectKind

def all : List ObjectKind := [node, pod, service, ingress, route, configMap, deployment]

def name : ObjectKind → String
  | node => "node"
  | pod => "pod"
  | service => "service"
  | ingress => "ingress"
  | route => "route"
  | configMap => "configmap"
  | deployment => "deployment"

def ofName? (name : String) : Option ObjectKind := all.find? (·.name = name)

/-- Whether the controller has to do with objects of this kind beyond reading them. -/
def isManaged : ObjectKind → Bool
  | node | pod => false
  | _ => true

end ObjectKind

/-! ## Calls -/

/-- A call to a cluster, as far as it can be told to fail. -/
inductive Call where
  | readPaths
  | readNodes
  | readPod
  | readService
  /-- Lists the objects of a kind in a namespace. -/
  | list (kind : ObjectKind)
  | write (kind : ObjectKind)
deriving DecidableEq, Repr

namespace Call

def name : Call → String
  | readPaths => "paths"
  | readNodes => "nodes"
  | readPod => "pod"
  | readService => "get service"
  | list .ingress => "list ingresses"
  | list kind => "list " ++ kind.name ++ "s"
  | write kind => kind.name

end Call

namespace Write

def kind : Write → ObjectKind
  | createIngress _ | replaceIngress _ | deleteIngress _ => .ingress
  | createRoute _ | replaceRoute _ | deleteRoute _ => .route
  | patchService _ _ => .service
  | replaceConfigMap _ => .configMap
  | replaceDeployment _ => .deployment

def verb : Write → String
  | createIngress _ | createRoute _ => "create"
  | replaceIngress _ | replaceRoute _ | replaceConfigMap _ | replaceDeployment _ => "replace"
  | deleteIngress _ | deleteRoute _ => "delete"
  | patchService _ _ => "patch"

/-- A write as it is remembered. -/
def record (w : Write) : String := w.verb ++ " " ++ w.kind.name ++ " " ++ w.key.text

end Write

/-! ## Clusters -/

structure Cluster where
  apiPaths : List String := []
  /-- The names of the calls that fail. -/
  failing : List String := []
  nodes : Dict ObjectKey Node := ∅
  pods : Dict ObjectKey Pod := ∅
  services : Dict ObjectKey Service := ∅
  ingresses : Shelf Ingress := ∅
  routes : Shelf Route := ∅
  configMaps : Shelf ConfigMap := ∅
  deployments : Shelf Deployment := ∅
  /-- The writes that have been made, the last one first. -/
  log : List Write := []
deriving Inhabited

namespace Cluster

def fails (c : Cluster) (call : Call) : Bool := c.failing.contains call.name

def patchService (c : Cluster) (key : ObjectKey) (patch : Json) : Except Cause Cluster :=
  match c.services.get? key with
  | none => .error (.serviceNotFound key)
  | some s =>
    match Service.ofJson? (Json.merge patch s.toJson) with
    | some patched => .ok { c with services := c.services.insert key patched }
    | none => .error (.api .unreadable)

/-- Creates an ingress, unless there is one in its place. -/
def createIngress (c : Cluster) (i : Ingress) : Except Cause Cluster :=
  if c.ingresses.contains i.metadata.key then
    .error (.api (.refused 409 "AlreadyExists" s!"ingress {i.metadata.displayName} already exists"))
  else .ok { c with ingresses := c.ingresses.put i }

/-- The effect of a write on the objects. -/
def effect (c : Cluster) : Write → Except Cause Cluster
  | .createIngress i => c.createIngress i
  | .replaceIngress i => .ok { c with ingresses := c.ingresses.put i }
  | .deleteIngress key => .ok { c with ingresses := c.ingresses.erase key }
  | .createRoute r | .replaceRoute r => .ok { c with routes := c.routes.put r }
  | .deleteRoute key => .ok { c with routes := c.routes.erase key }
  | .patchService key patch => c.patchService key patch
  | .replaceConfigMap m => .ok { c with configMaps := c.configMaps.put m }
  | .replaceDeployment d => .ok { c with deployments := c.deployments.put d }

/-- Makes a write. One that is told to fail leaves no trace; any other is remembered, even if it has
no effect. -/
def write (w : Write) (c : Cluster) : Except Failure Unit × Cluster :=
  if c.fails (.write w.kind) then (.error { cause := .injected (Call.write w.kind).name }, c)
  else
    let logged := { c with log := w :: c.log }
    match logged.effect w with
    | .ok after => (.ok (), after)
    | .error cause => (.error { cause }, logged)

/-- A call that reads, unless it is told to fail. -/
def read {α : Type} (call : Call) (value : Cluster → α) : Attempt (StateM Cluster) α :=
  ExceptT.mk do
    let c ← get
    return if c.fails call then .error { cause := .injected call.name } else .ok (value c)

/-- The store that a cluster in memory is. -/
def store : Store (StateM Cluster) where
  apiPaths := read .readPaths (·.apiPaths)
  nodes := read .readNodes (·.nodes.values)
  pod? key := read .readPod (·.pods.get? key)
  service? key := read .readService (·.services.get? key)
  ingresses ns := read (.list .ingress) fun c => c.ingresses.inNamespace ns
  routes ns := read (.list .route) fun c => c.routes.inNamespace ns
  configMaps ns := read (.list .configMap) fun c => c.configMaps.inNamespace ns
  deployments ns := read (.list .deployment) fun c => c.deployments.inNamespace ns
  write w := ExceptT.mk (write w)

/-! ## Changes from outside -/

/-- Stores an object that is given as a document. -/
def put? (c : Cluster) (kind : ObjectKind) (j : Json) : Option Cluster :=
  match kind with
  | .node => (Node.ofJson? j).map fun o => { c with nodes := c.nodes.insert o.metadata.key o }
  | .pod => (Pod.ofJson? j).map fun o => { c with pods := c.pods.insert o.metadata.key o }
  | .service => (Service.ofJson? j).map fun o =>
      { c with services := c.services.insert o.metadata.key o }
  | .ingress => (Ingress.ofJson? j).map fun o => { c with ingresses := c.ingresses.put o }
  | .route => (Route.ofJson? j).map fun o => { c with routes := c.routes.put o }
  | .configMap => (ConfigMap.ofJson? j).map fun o => { c with configMaps := c.configMaps.put o }
  | .deployment => (Deployment.ofJson? j).map fun o => { c with deployments := c.deployments.put o }

def drop (c : Cluster) (kind : ObjectKind) (key : ObjectKey) : Cluster :=
  match kind with
  | .node => { c with nodes := c.nodes.erase key }
  | .pod => { c with pods := c.pods.erase key }
  | .service => { c with services := c.services.erase key }
  | .ingress => { c with ingresses := c.ingresses.erase key }
  | .route => { c with routes := c.routes.erase key }
  | .configMap => { c with configMaps := c.configMaps.erase key }
  | .deployment => { c with deployments := c.deployments.erase key }

/-- The managed objects, as documents by kind and key. -/
def documents (c : Cluster) : Dict String Json :=
  let named {α : Type} [Resource α] (kind : ObjectKind) (objects : List (ObjectKey × α)) :
      List (String × Json) :=
    objects.map fun e => (kind.name ++ " " ++ e.1.text, Resource.toJson e.2)
  .ofList (named .service c.services.toList ++ named .ingress c.ingresses.toList ++
    named .route c.routes.toList ++ named .configMap c.configMaps.toList ++
    named .deployment c.deployments.toList)

/-- The managed objects that differ between two clusters, as they are in the second; those it lacks
are `null`. -/
def changes (before after : Cluster) : List (String × Json) :=
  let old := before.documents
  let new := after.documents
  let removed := (old.toList.filter fun e => !new.contains e.1).map fun e => (e.1, Json.null)
  removed ++ new.toList.filter fun e => !decide (old.get? e.1 = some e.2)

end Cluster

end ServiceExposure
