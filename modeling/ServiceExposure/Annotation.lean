/-! # Labels and annotations

The keys under which services, configuration maps, deployments and nodes say what is to happen to
them, and under which results are recorded. -/

namespace ServiceExposure.Annotation

/-! ## Services: opting in -/

/-- Label and value of an exposed service. -/
def exposeLabel : String × String := ("expose", "true")

def expose : String × String := ("fabric8.io/expose", "true")

def inject : String × String := ("fabric8.io/inject", "true")

/-! ## Services: the recorded address -/

def exposeUrl : String := "fabric8.io/exposeUrl"

/-- Names one more annotation, which gets the host alone. -/
def exposeHostNameAs : String := "fabric8.io/exposeHostNameAs"

/-- A path that is appended to the recorded address. -/
def apiServicePath : String := "api.service.kubernetes.io/path"

/-! ## Services: routing -/

def exposePort : String := "fabric8.io/exposePort"

def ingressName : String := "fabric8.io/ingress.name"

def hostName : String := "fabric8.io/host.name"

def ingressPath : String := "fabric8.io/ingress.path"

def pathMode : String := "fabric8.io/path.mode"

/-- The path mode that routes by path under the bare domain. -/
def byPath : String := "path"

def useInternalDomain : String := "fabric8.io/use.internal.domain"

/-- Lines `key: value` that are copied to the ingress. -/
def ingressAnnotations : String := "fabric8.io/ingress.annotations"

def skipTls : String := "jenkins-x.io/skip.tls"

/-- Label with the name of the release that a service belongs to. -/
def release : String := "release"

/-! ## Ingresses and routes -/

def provider : String × String := ("provider", "fabric8")

def generatedBy : String × String := ("fabric8.io/generated-by", "exposecontroller")

def ingressClass : String := "kubernetes.io/ingress.class"

def nginxIngressClass : String := "nginx.ingress.kubernetes.io/ingress.class"

def defaultIngressClass : String := "nginx"

def tlsAcme : String := "kubernetes.io/tls-acme"

/-! ## Nodes -/

/-- As a label, marks the node whose address the cluster is reached at; as an annotation, gives that
address. -/
def externalIP : String := "fabric8.io/externalIP"

/-- Annotations that end like this hold a node's address. -/
def providedNodeIP : String := "kubernetes.io/provided-node-ip"

/-! ## Configuration maps -/

def urlProtocolKey : String := "expose.config.fabric8.io/url-protocol"

def urlKey : String := "expose.config.fabric8.io/url-key"

def hostKey : String := "expose.config.fabric8.io/host-key"

def pathKey : String := "expose.config.fabric8.io/path-key"

def clusterIPKey : String := "expose.config.fabric8.io/clusterip-key"

def clusterIPPortKey : String := "expose.config.fabric8.io/clusterip-port-key"

def clusterIPPortIfEmptyKey : String := "expose.config.fabric8.io/clusterip-port-if-empty-key"

def apiServerKey : String := "expose.config.fabric8.io/apiserver-key"

def apiServerUrlKey : String := "expose.config.fabric8.io/apiserver-url-key"

def apiServerProtocolKey : String := "expose.config.fabric8.io/apiserver-protocol-key"

def consoleUrlKey : String := "expose.config.fabric8.io/console-url-key"

/-- On a service: a list of line rules in YAML. -/
def configYaml : String := "expose.config.fabric8.io/config-yaml"

/-! ## Deployments -/

/-- Names the configuration maps on whose change a deployment restarts. -/
def updateOnChange : String := "configmap.fabric8.io/update-on-change"

end ServiceExposure.Annotation
