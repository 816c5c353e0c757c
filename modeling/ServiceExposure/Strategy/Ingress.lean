import ServiceExposure.Snapshot
import ServiceExposure.Strategy.Routing

/-! # Exposure by ingress

Each service gets a path of an ingress rule under a wildcard domain. Services with the same
application name share an ingress. -/

namespace ServiceExposure

structure IngressStrategy where
  domain : String
  internalDomain : Option String
  template : Template
  pathMode : Option String
  ingressClass : Option String
  tls : TlsSettings
deriving DecidableEq, Repr

namespace IngressStrategy

def ofConfig (c : Config) (domain : String) : Except Failure IngressStrategy := do
  let template ← c.template
  return {
    domain
    internalDomain := nonEmpty? c.internalDomain
    template
    pathMode := nonEmpty? c.pathMode
    ingressClass := nonEmpty? c.ingressClass
    tls := .ofConfig c }

/-! ## Placement -/

/-- Where a service is reached. -/
structure Placement where
  /-- The host of the rule. -/
  host : String
  path : Option String
  /-- The host to record, with the path where services are told apart by path. -/
  fullHost : String
  /-- The host of the certificate. -/
  tlsHost : String
  byPath : Bool
deriving DecidableEq, Repr

def domainFor (st : IngressStrategy) (s : Service) : String :=
  match st.internalDomain with
  | some internal =>
    if s.annotation? Annotation.useInternalDomain = some "true" then internal
    else st.domain
  | none => st.domain

def routesByPath (st : IngressStrategy) (s : Service) : Bool :=
  (s.setting? Annotation.pathMode <|> st.pathMode) = some Annotation.byPath

def place (st : IngressStrategy) (s : Service) : Placement :=
  let app := s.appName
  let inNamespace := s.key.inNamespace
  let domain := st.domainFor s
  let host := st.template.render ((s.setting? Annotation.hostName).getD app) inNamespace domain
  let tlsHost := if st.tls.wildcard then "*." ++ domain else host
  -- the path of the rule as it is; where services are told apart by path, the end of it
  let path := s.setting? Annotation.ingressPath
  if st.routesByPath s then
    let path := Address.join ["/", inNamespace, app, path.getD "/"]
    { host := domain
      path := some path
      fullHost := Address.join [domain, path]
      tlsHost
      byPath := true }
  else { host, path, fullHost := host, tlsHost, byPath := false }

/-! ## The ingress -/

/-- The paths of the first rule. -/
def boundPaths (existing : Option Ingress) : List IngressPath :=
  match existing.map Ingress.rules with
  | some (rule :: _) => rule.paths
  | _ => []

def isBound (service : String) (path : Option String) (p : IngressPath) : Bool :=
  p.backend.service.map (·.name) = some service && nonEmpty? p.path = path

/-- A class that is absent or empty becomes the standard one. -/
def withDefaultClass (annotations : StringDict) (key : String) : StringDict :=
  if (annotations.get? key).getD "" = "" then
    annotations.insert key Annotation.defaultIngressClass
  else annotations

/-- An annotation from a line `key: value`. -/
def extraAnnotation? (line : String) : Option (String × String) :=
  match Text.cut? ":" (Text.trim line) with
  | some (key, value) => if Text.trim key = "" then none else some (Text.trim key, Text.trim value)
  | none => none

def extraAnnotations (s : Service) : List (String × String) :=
  match s.annotation? Annotation.ingressAnnotations with
  | some text => (Text.lines text).filterMap extraAnnotation?
  | none => []

def annotate (st : IngressStrategy) (s : Service) (byPath : Bool) (annotations : StringDict) :
    StringDict :=
  let annotations :=
    match st.ingressClass with
    | some c => (annotations.insert Annotation.ingressClass c).insert Annotation.nginxIngressClass c
    | none => annotations
  let annotations :=
    if byPath then
      withDefaultClass (withDefaultClass annotations Annotation.ingressClass)
        Annotation.nginxIngressClass
    else annotations
  let annotations :=
    if st.tls.acme then annotations.insert Annotation.tlsAcme "true" else annotations
  -- what the service asks for comes last, and wins
  (extraAnnotations s).foldl (fun d e => d.insert e.1 e.2) annotations

def pathFor (service : String) (port : Int32) (path : Option String) : IngressPath where
  path := path
  pathType := "ImplementationSpecific"
  backend := { service := some { name := service, port := some { number := some port } } }

/-- The ingress with a path for the service in front of the paths it has; all are put under one
rule. -/
def ingressFor (st : IngressStrategy) (s : Service) (existing : Option Ingress)
    (port : Int32) : Ingress :=
  let app := s.appName
  let placement := st.place s
  let base : Ingress :=
    existing.getD { metadata := { inNamespace := s.metadata.inNamespace, name := some app } }
  let marked := base.metadata.markedFor s
  let spec := base.spec.getD {}
  -- only the first rule is looked at: paths under others are not taken over
  let paths := pathFor s.name port placement.path :: boundPaths existing
  { metadata := { marked with
      annotations := some (st.annotate s placement.byPath (marked.annotations.getD ∅)) }
    spec := some { spec with
      rules := some [{ host := some placement.host, http := some { paths } }]
      tls :=
        if st.tls.enabledFor s then
          some [{ hosts := some [placement.tlsHost], secretName := st.tls.secretFor app }]
        else spec.tls } }

/-- The write that binds the service to its path, unless it is bound. -/
def routingWrites (st : IngressStrategy) (s : Service) (snapshot : Snapshot) :
    Except Failure (List Write) :=
  let existing := snapshot.ingresses.get? s.appName
  if (boundPaths existing).any (isBound s.name (st.place s).path) then .ok []
  else do
    let port ← s.exposedPort
    let ingress := st.ingressFor s existing port
    return [if existing.isSome then .replaceIngress ingress else .createIngress ingress]

/-! ## Exposing -/

def add (st : IngressStrategy) (s : Service) (snapshot : Snapshot) : Except Failure Exposure := do
  let writes ← st.routingWrites s snapshot
  return .of s (s.recordUrl (st.place s).fullHost (TlsSettings.protocol (st.tls.enabledFor s)))
    writes

def remove (s : Service) (snapshot : Snapshot) : Exposure :=
  .of s s.clearUrl <|
    if snapshot.ingresses.contains s.appName then [.deleteIngress ⟨s.key.inNamespace, s.appName⟩]
    else []

end IngressStrategy

end ServiceExposure
