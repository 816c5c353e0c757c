import ServiceExposure.CommandLine.LogFilter
import ServiceExposure.Config
import ServiceExposure.Dict
import ServiceExposure.Net.Address

/-! # The command line

Long options, some with a value that is the next argument or follows an equals sign. -/

namespace ServiceExposure

namespace CommandLine

inductive Error where
  | unknownArgument
  /-- An option is given again. -/
  | argumentConflict
  /-- An option lacks its value. -/
  | invalidValue
  /-- A value is not what the option takes. -/
  | valueValidation
  /-- A flag is given a value. -/
  | tooManyValues
deriving DecidableEq, Repr

/-! ## Options -/

/-- What an option takes. -/
inductive Kind where
  | flag
  | text
  | path
  /-- Texts between commas; such an option may be given again. -/
  | list
  | logFilter
  | logFormat
  | socketAddress
deriving DecidableEq, Repr

def options : List (String × Kind) := [
  ("log-level", .logFilter),
  ("log-format", .logFormat),
  ("cluster", .text),
  ("context", .text),
  ("kubeconfig", .path),
  ("user", .text),
  ("as", .text),
  ("as-group", .text),
  ("admin-addr", .socketAddress),
  ("config-file", .path),
  ("watch-namespace", .text),
  ("exposer", .text),
  ("domain", .text),
  ("internal-domain", .text),
  ("url-template", .text),
  ("node-ip", .text),
  ("route-host", .text),
  ("route-use-path", .flag),
  ("path-mode", .text),
  ("ingress-class", .text),
  ("http", .flag),
  ("tls-acme", .flag),
  ("tls-secret-name", .text),
  ("tls-use-wildcard", .flag),
  ("api-server", .text),
  ("api-server-protocol", .text),
  ("console-url", .text),
  ("services", .list)]

def kind? (name : String) : Option Kind := options.lookup name

/-- The values that a text gives an option of a kind. -/
def Kind.values (kind : Kind) (text : String) : Except Error (List String) :=
  let checked (isValid : Bool) : Except Error (List String) :=
    if isValid then .ok [text] else .error .valueValidation
  match kind with
  | .flag => .ok []
  | .text => .ok [text]
  | .path => if text.isEmpty then .error .invalidValue else .ok [text]
  | .list => .ok (Text.split ',' text)
  | .logFilter => checked (LogFilter.isValid text)
  | .logFormat => checked (text = "plain" || text = "json")
  | .socketAddress => checked (Net.isSocketAddress text)

/-! ## Reading arguments -/

/-- What the arguments so far give. -/
structure Given where
  /-- The values of each option. -/
  values : Dict String (List String) := ∅
  /-- An option whose value is an argument of its own, and that argument. It counts only once
  another option or the end follows. -/
  pending : Option (String × Kind × Option String) := none

namespace Given

def add (g : Given) (name : String) (kind : Kind) (text : String) : Except Error Given := do
  if kind ≠ .list && g.values.contains name then throw .argumentConflict
  let values ← kind.values text
  return { g with values := g.values.insert name ((g.values.get? name).getD [] ++ values) }

/-- Takes the pending option into account. -/
def settle (g : Given) : Except Error Given :=
  match g.pending with
  | none => .ok g
  | some (_, _, none) => .error .invalidValue
  | some (name, kind, some text) => { g with pending := none }.add name kind text

/-- Takes an option, without its hyphens, into account. -/
def addOption (g : Given) (text : String) : Except Error Given :=
  let (name, value) :=
    match Text.cut? "=" text with
    | some (name, value) => (name, some value)
    | none => (text, none)
  match kind? name, value with
  | none, _ => .error .unknownArgument
  | some .flag, some _ => .error .tooManyValues
  | some .flag, none => do (← g.settle).add name .flag ""
  | some kind, some value => do (← g.settle).add name kind value
  | some kind, none => do return { ← g.settle with pending := some (name, kind, none) }

/-- Takes the arguments into account. Two hyphens alone end the options, and nothing may follow
them. -/
def addAll (g : Given) : List String → Except Error Given
  | [] => g.settle
  | arg :: args =>
    if arg = "--" then if args.isEmpty then g.settle else .error .unknownArgument
    else
      match Text.after? "--" arg with
      | some text => do (← g.addOption text).addAll args
      | none =>
        match g.pending with
        | some (name, kind, none) =>
          if Text.startsWith "-" arg && arg ≠ "-" then .error .unknownArgument
          else { g with pending := some (name, kind, some arg) }.addAll args
        | _ => .error .unknownArgument

def text? (g : Given) (name : String) : Option String := (g.values.get? name).bind (·.getLast?)

def flag (g : Given) (name : String) : Bool := g.values.contains name

end Given

end CommandLine

/-! ## Overrides -/

/-- A command line. -/
structure CommandLine where
  configFile : Option String := none
  /-- The only namespace to watch. -/
  watchNamespace : Option String := none
  /-- What is to override the configuration file. -/
  overrides : Config := {}
deriving DecidableEq, Repr, Inhabited

namespace CommandLine

def ofGiven (g : Given) : CommandLine where
  configFile := g.text? "config-file"
  watchNamespace := g.text? "watch-namespace"
  overrides := {
    exposer := g.text? "exposer"
    domain := g.text? "domain"
    internalDomain := g.text? "internal-domain"
    urlTemplate := g.text? "url-template"
    nodeIP := g.text? "node-ip"
    routeHost := g.text? "route-host"
    routeUsePath := g.flag "route-use-path"
    pathMode := g.text? "path-mode"
    ingressClass := g.text? "ingress-class"
    http := g.flag "http"
    tlsAcme := g.flag "tls-acme"
    tlsSecretName := g.text? "tls-secret-name"
    tlsUseWildcard := g.flag "tls-use-wildcard"
    apiServer := g.text? "api-server"
    apiServerProtocol := g.text? "api-server-protocol"
    consoleUrl := g.text? "console-url"
    services := (g.values.get? "services").getD [] }

/-- Reads the arguments after the program's name. -/
def parse (args : List String) : Except Error CommandLine := do
  return ofGiven (← Given.addAll {} args)

end CommandLine

/-- A configuration under overrides: texts that are not empty and lists that are not empty replace
what was there, and flags can only be set. -/
def Config.override (c overrides : Config) : Config :=
  let text (old new : Option String) : Option String := nonEmpty? new <|> old
  { exposer := text c.exposer overrides.exposer
    domain := text c.domain overrides.domain
    internalDomain := text c.internalDomain overrides.internalDomain
    urlTemplate := text c.urlTemplate overrides.urlTemplate
    nodeIP := text c.nodeIP overrides.nodeIP
    routeHost := text c.routeHost overrides.routeHost
    routeUsePath := c.routeUsePath || overrides.routeUsePath
    pathMode := text c.pathMode overrides.pathMode
    ingressClass := text c.ingressClass overrides.ingressClass
    http := c.http || overrides.http
    tlsAcme := c.tlsAcme || overrides.tlsAcme
    tlsSecretName := text c.tlsSecretName overrides.tlsSecretName
    tlsUseWildcard := c.tlsUseWildcard || overrides.tlsUseWildcard
    apiServer := text c.apiServer overrides.apiServer
    apiServerProtocol := text c.apiServerProtocol overrides.apiServerProtocol
    consoleUrl := text c.consoleUrl overrides.consoleUrl
    services := if overrides.services.isEmpty then c.services else overrides.services }

end ServiceExposure
