import ServiceExposure.Annotation
import ServiceExposure.ExposedUrl
import ServiceExposure.Propagation.LineRule
import ServiceExposure.Propagation.UrlForm
import ServiceExposure.Text.Blank

/-! # Propagation

The address of an exposed service is written into the configuration maps of its namespace that ask
for it. What they ask for stands in annotations, so that the edits do not depend on the data. -/

namespace ServiceExposure

namespace Propagation

/-- What is known of the cluster and its controller. -/
structure Settings where
  apiServer : Option String := none
  apiServerProtocol : String := ""
  consoleUrl : Option String := none
  /-- The protocol that exposed URLs are to be used with. -/
  urlProtocol : String := ""
deriving DecidableEq, Repr, Inhabited

namespace Settings

def apiServerUrl? (s : Settings) : Option String :=
  s.apiServer.map fun api => s.apiServerProtocol ++ "://" ++ api

end Settings

/-- The keys that an annotation lists between commas. -/
def keysOf (text : String) : List String :=
  ((Text.split ',' text).map Text.trim).filter (· ≠ "")

def setEach (keys : Option String) (value : String) : List Edit :=
  (keys.map keysOf).getD [] |>.map (.set · value)

/-- Sets the key that an annotation of the configuration map declares. -/
def setDeclared (c : ConfigMap) (requestKey value : String) : List Edit :=
  (nonEmpty? (c.annotation? requestKey)).toList.map (.set · value)

/-! ## Any configuration map -/

/-- The forms of the URL that a configuration map asks for. -/
def urlEdits (settings : Settings) (service : String) (url : String) (c : ConfigMap) : List Edit :=
  UrlForm.all.flatMap (fun form =>
    match form.render? url with
    | some value => setEach (c.annotation? (form.requestKey service)) value
    | none => []) ++
  -- the request for the protocol names no service
  setEach (c.annotation? Annotation.urlProtocolKey) settings.urlProtocol

/-! ## The service's own configuration map -/

/-- The cluster's own addresses. -/
def clusterEdits (settings : Settings) (c : ConfigMap) : List Edit :=
  (match settings.apiServer, settings.apiServerUrl? with
    | some api, some url =>
      setDeclared c Annotation.apiServerKey api ++ setDeclared c Annotation.apiServerUrlKey url
    | _, _ => []) ++
  (match settings.consoleUrl with
    | some console => setDeclared c Annotation.consoleUrlKey console
    | none => []) ++
  setDeclared c Annotation.apiServerProtocolKey settings.apiServerProtocol

/-- The service's address inside the cluster. -/
def clusterIP? (s : Service) : Option String :=
  (nonEmpty? (s.spec.bind (·.clusterIP))).filter (· ≠ "None")

/-- The first port that a service leads to, by number or by name. -/
def targetPort? (s : Service) : Option String :=
  s.ports.findSome? fun p =>
    match p.targetPort with
    | some (.name name) => if name.isEmpty then none else some name
    | some (.number n) => if 0 < n then some (toString n) else none
    | none => none

/-- The address inside the cluster, under keys that the service declares, or else its configuration
map. -/
def clusterIPEdits (s : Service) (c : ConfigMap) : List Edit :=
  match clusterIP? s with
  | none => []
  | some ip =>
    let declared (requestKey : String) : List String :=
      (s.setting? requestKey <|> nonEmpty? (c.annotation? requestKey)).toList
    (declared Annotation.clusterIPKey).map (.set · ip) ++
      match targetPort? s with
      | none => []
      | some port =>
        let address := ip ++ ":" ++ port
        (declared Annotation.clusterIPPortKey).map (.set · address) ++
          (declared Annotation.clusterIPPortIfEmptyKey).map (.fill · address)

/-- What an expression of a line rule stands for. -/
def expressionValue? (settings : Settings) (url : String) (expression : String) : Option String :=
  match expression with
  | "host" => Url.hostOf? url
  | "url" => some url
  | "apiserver" => settings.apiServer
  | "apiserverURL" => settings.apiServerUrl?
  | "apiserverProtocol" => some settings.apiServerProtocol
  | "consoleURL" => settings.consoleUrl
  | _ => none

/-- The line rules of a service. A list that cannot be read counts as empty. -/
def lineEdits (settings : Settings) (s : Service) (url : String) : List Edit :=
  match s.setting? Annotation.configYaml with
  | none => []
  | some yaml =>
    ((LineRule.listOfYaml? yaml).getD []).filterMap (LineRule.edit? (expressionValue? settings url))

/-- The exposed URL and its parts. A URL that cannot be read has no host, and the path `/`. -/
def addressEdits (settings : Settings) (s : Service) (url : String) (c : ConfigMap) : List Edit :=
  setDeclared c Annotation.urlKey url ++
  (match Url.hostOf? url with
    | some host => setDeclared c Annotation.hostKey host
    | none => []) ++
  setDeclared c Annotation.pathKey ((Url.pathOf url).toOption.getD "/") ++
  lineEdits settings s url

/-- The edits of the configuration map that has the name of the service. -/
def ownEdits (settings : Settings) (s : Service) (c : ConfigMap) : List Edit :=
  clusterEdits settings c ++ clusterIPEdits s c ++
    match s.exposedUrl? with
    | some url => addressEdits settings s url c
    | none => []

/-! ## All configuration maps -/

def edits (settings : Settings) (s : Service) (name : String) (c : ConfigMap) : List Edit :=
  (if name = s.name then ownEdits settings s c else []) ++
    match s.exposedUrl? with
    | some url => urlEdits settings s.name url c
    | none => []

/-- The configuration maps whose data change, by name. -/
def changed (settings : Settings) (s : Service) (configMaps : Dict String ConfigMap) :
    List ConfigMap :=
  configMaps.toList.filterMap fun (name, c) =>
    let edited := c.edit (edits settings s name c)
    -- an edit that gives a key the value it has is no reason to write
    if edited.data = c.data then none else some edited

end Propagation

end ServiceExposure
