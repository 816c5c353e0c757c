import ServiceExposure.Snapshot
import ServiceExposure.Strategy.Routing

/-! # Exposure by route

Each service gets a route of its application name. -/

namespace ServiceExposure

structure RouteStrategy where
  domain : String
  template : Template
  routeHost : Option String
  usePath : Bool
  tls : TlsSettings
deriving DecidableEq, Repr

namespace RouteStrategy

def ofConfig (c : Config) (domain : String) : Except Failure RouteStrategy := do
  let template ← c.template
  return {
    domain
    template
    routeHost := nonEmpty? c.routeHost
    usePath := c.routeUsePath
    tls := .ofConfig c }

/-- The host of the route, and its path where services are told apart by path. -/
def place (st : RouteStrategy) (s : Service) : String × Option String :=
  let app := s.appName
  let inNamespace := s.key.inNamespace
  if st.usePath then (st.routeHost.getD st.domain, some (Address.join ["/", inNamespace, app, "/"]))
  else (st.template.render ((s.setting? Annotation.hostName).getD app) inNamespace st.domain, none)

/-- The name of the first port with that number, or the number if it has none. -/
def targetPort (s : Service) (port : Int32) : PortReference :=
  match nonEmpty? ((s.ports.find? (·.port = port)).bind (·.name)) with
  | some name => .name name
  | none => .number port

def routeFor (st : RouteStrategy) (s : Service) (existing : Option Route) (port : Int32) : Route :=
  let (host, path) := st.place s
  let metadata :=
    (existing.map (·.metadata)).getD
      { inNamespace := s.metadata.inNamespace, name := some s.appName }
  { metadata := metadata.markedFor s
    spec := {
      host := some host
      path
      target := .service s.name
      port := some ⟨targetPort s port⟩
      tls :=
        if st.tls.enabledFor s then
          some { termination := "edge", insecureEdgeTerminationPolicy := some "Redirect" }
        else none } }

/-- The write that brings the stored route to the wanted one, if it differs. -/
def routingWrites (existing : Option Route) (route : Route) : List Write :=
  match existing with
  | none => [.createRoute route]
  | some stored => if stored = route then [] else [.replaceRoute route]

def add (st : RouteStrategy) (s : Service) (snapshot : Snapshot) : Except Failure Exposure := do
  let port ← s.exposedPort
  let existing := snapshot.routes.get? s.appName
  let (host, path) := st.place s
  let fullHost :=
    match path with
    | some path => Address.join [host, path]
    | none => host
  return .of s (s.recordUrl fullHost (TlsSettings.protocol (st.tls.enabledFor s)))
    (routingWrites existing (st.routeFor s existing port))

def remove (s : Service) (snapshot : Snapshot) : Exposure :=
  .of s s.clearUrl <|
    if snapshot.routes.contains s.appName then [.deleteRoute ⟨s.key.inNamespace, s.appName⟩] else []

end RouteStrategy

end ServiceExposure
