import ServiceExposure.Notification
import ServiceExposure.Propagation
import ServiceExposure.Rollout
import ServiceExposure.Snapshot
import ServiceExposure.Strategy
import ServiceExposure.Write

/-! # Reconciliation

A notification and a snapshot of the namespace give the writes that bring the namespace in line: the
routing object first, then the record on the service, then the configuration maps, and the
deployments that read them last. -/

namespace ServiceExposure

structure Reconciler where
  strategy : Strategy
  settings : Propagation.Settings
  /-- The names of the services that are handled; all are if there are none. -/
  services : List String := []
deriving DecidableEq, Repr

namespace Reconciler

def allows (r : Reconciler) (service : String) : Bool :=
  r.services.isEmpty || r.services.contains service

/-- Whether a notification may lead to writes. -/
def wants (r : Reconciler) (n : Notification) : Bool := r.allows n.service.name && n.concernsExposed

/-- The writes that carry the address of a service into its namespace. -/
def propagate (r : Reconciler) (s : Service) (snapshot : Snapshot) : List Write :=
  -- deployments follow the configuration maps that change now, not those that have changed before
  let configMaps := Propagation.changed r.settings s snapshot.configMaps
  let (deployments, rolled) := Rollout.rollAll configMaps snapshot.deployments
  configMaps.map .replaceConfigMap ++
    (deployments.toList.filter fun e => rolled.contains e.1).map fun e => .replaceDeployment e.2

/-- Exposes a service. One that cannot be exposed keeps its address, which is propagated all the
same. -/
def planAdd (r : Reconciler) (s : Service) (snapshot : Snapshot) : List Write :=
  match r.strategy.add s snapshot with
  | .ok exposure => exposure.writes ++ r.propagate exposure.service snapshot
  | .error _ => r.propagate s snapshot

def planRemove (r : Reconciler) (s : Service) (snapshot : Snapshot) : List Write :=
  (r.strategy.remove s snapshot).writes

/-- The writes that a notification calls for. A service that is gone is not written to. -/
def plan (r : Reconciler) (n : Notification) (snapshot : Snapshot) : List Write :=
  if r.wants n then
    match n with
    | .added s => r.planAdd s snapshot
    | .updated _ new => if new.isExposed then r.planAdd new snapshot else r.planRemove new snapshot
    | .deleted s => (r.planRemove s snapshot).filter fun w => !w.isServicePatch
  else []

end Reconciler

end ServiceExposure
