import ServiceExposure.Kube.ConfigMap
import ServiceExposure.Kube.Ingress
import ServiceExposure.Kube.Route
import ServiceExposure.Kube.Workload

/-! # Snapshots -/

namespace ServiceExposure

/-- The objects of one namespace by name, as far as they bear on the exposure of a service. -/
structure Snapshot where
  ingresses : Dict String Ingress := ∅
  routes : Dict String Route := ∅
  configMaps : Dict String ConfigMap := ∅
  deployments : Dict String Deployment := ∅
deriving DecidableEq, Repr, Inhabited

end ServiceExposure
