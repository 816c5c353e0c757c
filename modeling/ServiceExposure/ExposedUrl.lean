import ServiceExposure.Address
import ServiceExposure.Annotation
import ServiceExposure.Kube.Service

/-! # The recorded URL of a service

A service that can be reached from outside carries its URL as an annotation, and may name one more
annotation that gets the host alone. -/

namespace ServiceExposure.Service

/-- The URL that a service is reached at, if one is recorded. -/
def exposedUrl? (s : Service) : Option String := s.setting? Annotation.exposeUrl

/-- `https` for a host on port 443 or 8443 and for a service with a port named `https`, else
`http`. -/
def protocolAt (s : Service) (host : String) : String :=
  let port := Address.port? host
  if port = some "443" || port = some "8443" || s.ports.any (·.name = some "https") then "https"
  else "http"

def annotations (s : Service) : StringDict := s.metadata.annotations.getD ∅

def withAnnotations (s : Service) (annotations : StringDict) : Service :=
  { s with metadata.annotations := some annotations }

/-- The annotation that the annotations themselves name for the host. -/
def aliasKey? (annotations : StringDict) : Option String :=
  nonEmpty? (annotations.get? Annotation.exposeHostNameAs)

/-- The URL for a host, with the path that the service's API is served under. -/
def urlAt (s : Service) (host protocol : String) : String :=
  let url := protocol ++ "://" ++ Address.bracketed host
  match s.setting? Annotation.apiServicePath with
  | some path => Address.join [url, path]
  | none => url

/-- Records the URL for a host and protocol, and the host under the alias that the service asks
for. -/
def recordUrl (s : Service) (host protocol : String) : Service :=
  let recorded := s.annotations.insert Annotation.exposeUrl (s.urlAt host protocol)
  s.withAnnotations <|
    match aliasKey? recorded with
    | some key => recorded.insert key host
    | none => recorded

/-- Removes the recorded URL and then the alias. -/
def clearUrl (s : Service) : Service :=
  match s.metadata.annotations with
  | none => s
  | some annotations =>
    let cleared := annotations.erase Annotation.exposeUrl
    s.withAnnotations <|
      match aliasKey? cleared with
      | some key => cleared.erase key
      | none => cleared

end ServiceExposure.Service
