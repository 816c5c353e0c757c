import ServiceExposure.Kube.ConfigMap
import ServiceExposure.Kube.Ingress
import ServiceExposure.Kube.Route
import ServiceExposure.Kube.Workload

/-! # Writes -/

namespace ServiceExposure

/-- A change to the cluster. -/
inductive Write where
  | createIngress (ingress : Ingress)
  | replaceIngress (ingress : Ingress)
  | deleteIngress (key : ObjectKey)
  | createRoute (route : Route)
  | replaceRoute (route : Route)
  | deleteRoute (key : ObjectKey)
  | patchService (key : ObjectKey) (patch : Json)
  | replaceConfigMap (configMap : ConfigMap)
  | replaceDeployment (deployment : Deployment)
deriving DecidableEq, Repr

namespace Write

/-- The object that is written. -/
def key : Write → ObjectKey
  | createIngress i | replaceIngress i => i.metadata.key
  | createRoute r | replaceRoute r => r.metadata.key
  | deleteIngress key | deleteRoute key | patchService key _ => key
  | replaceConfigMap c => c.metadata.key
  | replaceDeployment d => d.metadata.key

/-- What is done to which kind of object. -/
def action : Write → String
  | createIngress _ => "create ingress"
  | replaceIngress _ => "update ingress"
  | deleteIngress _ => "delete ingress"
  | createRoute _ => "create route"
  | replaceRoute _ => "update route"
  | deleteRoute _ => "delete route"
  | patchService _ _ => "patch service"
  | replaceConfigMap _ => "update config map"
  | replaceDeployment _ => "update deployment"

def text (w : Write) : String := w.action ++ " " ++ w.key.text

def isServicePatch : Write → Bool
  | patchService _ _ => true
  | _ => false

end Write

end ServiceExposure
