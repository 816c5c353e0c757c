import ServiceExposure.Strategy.Ingress
import ServiceExposure.Strategy.Route

/-! # Strategies

A strategy makes a service reachable from outside the cluster and records where. -/

namespace ServiceExposure

inductive Strategy where
  | ingress (strategy : IngressStrategy)
  /-- On a port of the only node, which has this address. -/
  | nodePort (nodeIP : String)
  /-- By the load balancer of the cluster's provider. -/
  | loadBalancer
  | route (strategy : RouteStrategy)
deriving DecidableEq, Repr

namespace Strategy

def exposer : Strategy → Exposer
  | ingress _ => .ingress
  | nodePort _ => .nodePort
  | loadBalancer => .loadBalancer
  | route _ => .route

/-! ## Node ports and load balancers -/

/-- The service as a node port service, with the address of its port once it has one. -/
def addNodePort (nodeIP : String) (s : Service) : Except Failure Exposure :=
  match s.ports with
  | [] => .error { cause := .noPorts s.key }
  | [port] =>
    let spec := s.spec.getD {}
    let typed :=
      { s with spec := some { spec with serviceType := some "NodePort", externalIPs := none } }
    let nodePort := port.nodePort.getD 0
    if 0 < nodePort then
      let host := Address.joinHostPort nodeIP nodePort
      .ok (.of s (typed.recordUrl host (typed.protocolAt host)) [])
    else .ok (.of s typed [])
  | ports => .error { cause := .multiplePorts s.key ports.length }

/-- The service as a load balancer service, with its address if it asks for one. -/
def addLoadBalancer (s : Service) : Exposure :=
  let spec := s.spec.getD {}
  let typed := { s with spec := some { spec with serviceType := some "LoadBalancer" } }
  match nonEmpty? spec.loadBalancerIP with
  | some ip => .of s (typed.recordUrl ip (typed.protocolAt ip)) []
  | none => .of s typed []

/-! ## Exposing -/

/-- What it takes to expose a service. -/
def add : Strategy → Service → Snapshot → Except Failure Exposure
  | ingress st, s, snapshot => st.add s snapshot
  | nodePort nodeIP, s, _ => addNodePort nodeIP s
  | loadBalancer, s, _ => .ok (addLoadBalancer s)
  | route st, s, snapshot => st.add s snapshot

/-- What it takes to stop exposing a service. -/
def remove : Strategy → Service → Snapshot → Exposure
  | ingress _, s, snapshot => IngressStrategy.remove s snapshot
  | nodePort _, s, _ | loadBalancer, s, _ => .of s s.clearUrl []
  | route _, s, snapshot => RouteStrategy.remove s snapshot

end Strategy

end ServiceExposure
