import ServiceExposure.Config
import ServiceExposure.Yaml.Fields

/-! # Configuration files -/

namespace ServiceExposure

namespace Config

/-- Reads a configuration file. Unknown keys are passed over. -/
def ofYaml? (text : String) : Option Config := do
  let d ← Yaml.document? text
  let members ← d.members? d.content
  let text (key : String) := Yaml.Document.field members key d.optionalString? none
  let flag (key : String) := Yaml.Document.field members key d.bool? false
  return {
    exposer := ← text "exposer"
    domain := ← text "domain"
    internalDomain := ← text "internalDomain"
    urlTemplate := ← text "urltemplate"
    nodeIP := ← text "nodeIP"
    routeHost := ← text "routeHost"
    routeUsePath := ← flag "routeUsePath"
    pathMode := ← text "pathMode"
    ingressClass := ← text "ingressClass"
    http := ← flag "http"
    tlsAcme := ← flag "tls-acme"
    tlsSecretName := ← text "tlsSecretName"
    tlsUseWildcard := ← flag "tlsUseWildcard"
    apiServer := ← text "apiserver"
    apiServerProtocol := ← text "apiserverProtocol"
    consoleUrl := ← text "consoleURL"
    services := ← Yaml.Document.field members "services" (d.list? d.string?) [] }

end Config

end ServiceExposure
