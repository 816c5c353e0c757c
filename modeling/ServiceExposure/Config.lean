import ServiceExposure.Json.Fields

/-! # Configuration -/

namespace ServiceExposure

/-- What a controller is configured with. Texts that are unset or empty leave the choice to the
controller. -/
structure Config where
  exposer : Option String := none
  domain : Option String := none
  /-- For services that ask for it by annotation. -/
  internalDomain : Option String := none
  urlTemplate : Option String := none
  nodeIP : Option String := none
  routeHost : Option String := none
  routeUsePath : Bool := false
  pathMode : Option String := none
  ingressClass : Option String := none
  http : Bool := false
  tlsAcme : Bool := false
  tlsSecretName : Option String := none
  tlsUseWildcard : Bool := false
  apiServer : Option String := none
  apiServerProtocol : Option String := none
  consoleUrl : Option String := none
  /-- If there are any, only services with these names are handled. -/
  services : List String := []
deriving DecidableEq, Repr, Inhabited

namespace Config

/-- With the keys of a configuration file; unset texts are `null`. -/
def toJson (c : Config) : Json :=
  let text (t : Option String) : Json := (t.map Json.string).getD .null
  .ofMembers [
    ("exposer", text c.exposer),
    ("domain", text c.domain),
    ("internalDomain", text c.internalDomain),
    ("urltemplate", text c.urlTemplate),
    ("nodeIP", text c.nodeIP),
    ("routeHost", text c.routeHost),
    ("routeUsePath", .bool c.routeUsePath),
    ("pathMode", text c.pathMode),
    ("ingressClass", text c.ingressClass),
    ("http", .bool c.http),
    ("tls-acme", .bool c.tlsAcme),
    ("tlsSecretName", text c.tlsSecretName),
    ("tlsUseWildcard", .bool c.tlsUseWildcard),
    ("apiserver", text c.apiServer),
    ("apiserverProtocol", text c.apiServerProtocol),
    ("consoleURL", text c.consoleUrl),
    ("services", .ofStrings c.services)]

/-- Reads the form that `toJson` writes, where any key may be missing. -/
def ofJson? (j : Json) : Option Config := do
  guard j.isObject
  let flag (key : String) : Option Bool := (j.member? key).elim (some false) Json.bool?
  return {
    exposer := ← j.optional? Json.string? "exposer"
    domain := ← j.optional? Json.string? "domain"
    internalDomain := ← j.optional? Json.string? "internalDomain"
    urlTemplate := ← j.optional? Json.string? "urltemplate"
    nodeIP := ← j.optional? Json.string? "nodeIP"
    routeHost := ← j.optional? Json.string? "routeHost"
    routeUsePath := ← flag "routeUsePath"
    pathMode := ← j.optional? Json.string? "pathMode"
    ingressClass := ← j.optional? Json.string? "ingressClass"
    http := ← flag "http"
    tlsAcme := ← flag "tls-acme"
    tlsSecretName := ← j.optional? Json.string? "tlsSecretName"
    tlsUseWildcard := ← flag "tlsUseWildcard"
    apiServer := ← j.optional? Json.string? "apiserver"
    apiServerProtocol := ← j.optional? Json.string? "apiserverProtocol"
    consoleUrl := ← j.optional? Json.string? "consoleURL"
    services := ← (j.member? "services").elim (some []) (Json.list? Json.string?) }

end Config

end ServiceExposure
