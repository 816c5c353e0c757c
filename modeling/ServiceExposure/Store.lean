import ServiceExposure.Failure
import ServiceExposure.Kube.Node
import ServiceExposure.Kube.Service
import ServiceExposure.Write

/-! # Stores -/

namespace ServiceExposure

/-- What the controller reads from a cluster, and how it writes to it. Look-ups give `none` for an
object that is not there. Deleting such an object succeeds. -/
structure Store (m : Type → Type) where
  /-- The paths at the root of the API. -/
  apiPaths : Attempt m (List String)
  nodes : Attempt m (List Node)
  pod? : ObjectKey → Attempt m (Option Pod)
  service? : ObjectKey → Attempt m (Option Service)
  ingresses : (inNamespace : String) → Attempt m (List Ingress)
  routes : (inNamespace : String) → Attempt m (List Route)
  configMaps : (inNamespace : String) → Attempt m (List ConfigMap)
  deployments : (inNamespace : String) → Attempt m (List Deployment)
  write : Write → Attempt m Unit

namespace Store

variable {m : Type → Type} [Monad m]

/-- Applies writes in order up to the first that fails. -/
def apply (store : Store m) : List Write → Attempt m Unit
  | [] => return
  | w :: ws => do
    Attempt.within ("failed to " ++ w.text) (store.write w)
    store.apply ws

end Store

end ServiceExposure
