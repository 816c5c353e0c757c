import ServiceExposure.Kube.Metadata

/-! # Pods and deployments

What runs in a cluster, as far as its environment goes.

Left out are the `status` of pods and deployments, and

* of a deployment's specification `minReadySeconds`, `paused`, `progressDeadlineSeconds`,
  `revisionHistoryLimit` and `strategy`, and `matchExpressions` of its selector;
* of a pod's specification all but its containers;
* of a container `args`, `envFrom`, `imagePullPolicy`, `lifecycle`, the three probes,
  `resizePolicy`, `restartPolicy`, `securityContext`, the fields of its terminal and of its
  termination message, `volumeDevices`, `volumeMounts` and `workingDir`;
* of its variables the sources other than configuration maps, and whether those may be missing;
* of its ports all but the number, and of its resources `claims` and `requests`. -/

namespace ServiceExposure

/-! ## Containers -/

structure ConfigMapKeyRef where
  key : String
  name : String
deriving DecidableEq, Repr

namespace ConfigMapKeyRef

def toJson (r : ConfigMapKeyRef) : Json :=
  .ofMembers [("key", .string r.key), ("name", .string r.name)]

def ofJson? (j : Json) : Option ConfigMapKeyRef := do
  guard j.isObject
  return {
    key := ← j.withDefault? Json.string? "" "key"
    name := ← j.withDefault? Json.string? "" "name" }

end ConfigMapKeyRef

/-- Where an environment variable takes its value from. -/
structure EnvSource where
  configMapKeyRef : Option ConfigMapKeyRef := none
deriving DecidableEq, Repr

namespace EnvSource

def toJson (s : EnvSource) : Json :=
  .ofPresent [("configMapKeyRef", s.configMapKeyRef.map ConfigMapKeyRef.toJson)]

def ofJson? (j : Json) : Option EnvSource := do
  guard j.isObject
  return { configMapKeyRef := ← j.optional? ConfigMapKeyRef.ofJson? "configMapKeyRef" }

end EnvSource

structure EnvVar where
  name : String
  value : Option String := none
  valueFrom : Option EnvSource := none
deriving DecidableEq, Repr

namespace EnvVar

def toJson (e : EnvVar) : Json :=
  .ofPresent [
    ("name", some (.string e.name)),
    ("value", e.value.map .string),
    ("valueFrom", e.valueFrom.map EnvSource.toJson)]

def ofJson? (j : Json) : Option EnvVar := do
  guard j.isObject
  return {
    name := ← j.withDefault? Json.string? "" "name"
    value := ← j.optional? Json.string? "value"
    valueFrom := ← j.optional? EnvSource.ofJson? "valueFrom" }

end EnvVar

structure ContainerPort where
  containerPort : Int32
deriving DecidableEq, Repr

namespace ContainerPort

def toJson (p : ContainerPort) : Json := .ofMembers [("containerPort", .int p.containerPort.toInt)]

def ofJson? (j : Json) : Option ContainerPort := do
  guard j.isObject
  return { containerPort := ← j.withDefault? Json.int32? 0 "containerPort" }

end ContainerPort

structure ContainerResources where
  limits : Option StringDict := none
deriving DecidableEq, Repr

namespace ContainerResources

def toJson (r : ContainerResources) : Json := .ofPresent [("limits", r.limits.map .ofStringDict)]

def ofJson? (j : Json) : Option ContainerResources := do
  guard j.isObject
  return { limits := ← j.optional? Json.stringDict? "limits" }

end ContainerResources

structure Container where
  name : String
  image : Option String := none
  command : Option (List String) := none
  env : Option (List EnvVar) := none
  ports : Option (List ContainerPort) := none
  resources : Option ContainerResources := none
deriving DecidableEq, Repr

namespace Container

def toJson (c : Container) : Json :=
  .ofPresent [
    ("name", some (.string c.name)),
    ("image", c.image.map .string),
    ("command", c.command.map .ofStrings),
    ("env", c.env.map (.ofList EnvVar.toJson)),
    ("ports", c.ports.map (.ofList ContainerPort.toJson)),
    ("resources", c.resources.map ContainerResources.toJson)]

def ofJson? (j : Json) : Option Container := do
  guard j.isObject
  return {
    name := ← j.withDefault? Json.string? "" "name"
    image := ← j.optional? Json.string? "image"
    command := ← j.optional? (Json.list? Json.string?) "command"
    env := ← j.optional? (Json.list? EnvVar.ofJson?) "env"
    ports := ← j.optional? (Json.list? ContainerPort.ofJson?) "ports"
    resources := ← j.optional? ContainerResources.ofJson? "resources" }

end Container

/-! ## Pods -/

structure PodSpec where
  containers : List Container
  initContainers : Option (List Container) := none
deriving DecidableEq, Repr

namespace PodSpec

def toJson (s : PodSpec) : Json :=
  .ofPresent [
    ("containers", some (.ofList Container.toJson s.containers)),
    ("initContainers", s.initContainers.map (.ofList Container.toJson))]

def ofJson? (j : Json) : Option PodSpec := do
  guard j.isObject
  return {
    containers := ← j.withDefault? (Json.list? Container.ofJson?) [] "containers"
    initContainers := ← j.optional? (Json.list? Container.ofJson?) "initContainers" }

end PodSpec

structure Pod where
  metadata : Metadata := {}
  spec : Option PodSpec := none
deriving DecidableEq, Repr, Inhabited

namespace Pod

def toJson (p : Pod) : Json :=
  .ofPresent (Resource.heading "Pod" "v1" p.metadata ++ [("spec", p.spec.map PodSpec.toJson)])

def ofJson? (j : Json) : Option Pod := do
  Resource.checked "Pod" "v1" j
  return {
    metadata := ← j.withDefault? Metadata.ofJson? {} "metadata"
    spec := ← j.optional? PodSpec.ofJson? "spec" }

instance : Resource Pod where
  kind := "Pod"
  apiVersion := "v1"
  plural := "pods"
  metadata := Pod.metadata
  toJson := toJson
  ofJson? := ofJson?

def containers (p : Pod) : List Container := (p.spec.map (·.containers)).getD []

end Pod

/-! ## Deployments -/

structure PodTemplate where
  metadata : Option Metadata := none
  spec : Option PodSpec := none
deriving DecidableEq, Repr, Inhabited

namespace PodTemplate

def toJson (t : PodTemplate) : Json :=
  .ofPresent [("metadata", t.metadata.map Metadata.toJson), ("spec", t.spec.map PodSpec.toJson)]

def ofJson? (j : Json) : Option PodTemplate := do
  guard j.isObject
  return {
    metadata := ← j.optional? Metadata.ofJson? "metadata"
    spec := ← j.optional? PodSpec.ofJson? "spec" }

end PodTemplate

structure LabelSelector where
  matchLabels : Option StringDict := none
deriving DecidableEq, Repr, Inhabited

namespace LabelSelector

def toJson (s : LabelSelector) : Json :=
  .ofPresent [("matchLabels", s.matchLabels.map .ofStringDict)]

def ofJson? (j : Json) : Option LabelSelector := do
  guard j.isObject
  return { matchLabels := ← j.optional? Json.stringDict? "matchLabels" }

end LabelSelector

structure DeploymentSpec where
  replicas : Option Int32 := none
  selector : LabelSelector := {}
  template : PodTemplate := {}
deriving DecidableEq, Repr

namespace DeploymentSpec

def toJson (s : DeploymentSpec) : Json :=
  .ofPresent [
    ("replicas", s.replicas.map fun n => .int n.toInt),
    ("selector", some s.selector.toJson),
    ("template", some s.template.toJson)]

def ofJson? (j : Json) : Option DeploymentSpec := do
  guard j.isObject
  return {
    replicas := ← j.optional? Json.int32? "replicas"
    selector := ← j.withDefault? LabelSelector.ofJson? {} "selector"
    template := ← j.withDefault? PodTemplate.ofJson? {} "template" }

end DeploymentSpec

structure Deployment where
  metadata : Metadata := {}
  spec : Option DeploymentSpec := none
deriving DecidableEq, Repr, Inhabited

namespace Deployment

def toJson (d : Deployment) : Json :=
  .ofPresent (Resource.heading "Deployment" "apps/v1" d.metadata ++
    [("spec", d.spec.map DeploymentSpec.toJson)])

def ofJson? (j : Json) : Option Deployment := do
  Resource.checked "Deployment" "apps/v1" j
  return {
    metadata := ← j.withDefault? Metadata.ofJson? {} "metadata"
    spec := ← j.optional? DeploymentSpec.ofJson? "spec" }

instance : Resource Deployment where
  kind := "Deployment"
  apiVersion := "apps/v1"
  plural := "deployments"
  metadata := Deployment.metadata
  toJson := toJson
  ofJson? := ofJson?

def containers (d : Deployment) : List Container :=
  ((d.spec.bind (·.template.spec)).map (·.containers)).getD []

/-- Changes each container of the pods. -/
def mapContainers (f : Container → Container) (d : Deployment) : Deployment :=
  { d with spec := d.spec.map fun s =>
      { s with template.spec := s.template.spec.map fun p =>
        { p with containers := p.containers.map f } } }

end Deployment

end ServiceExposure
