import ServiceExposure.Config
import ServiceExposure.ExposedUrl
import ServiceExposure.Failure
import ServiceExposure.Json.MergePatch
import ServiceExposure.Text.Cut
import ServiceExposure.Write

/-! # What strategies share

Names and ports of routing objects, the marks they carry, TLS, and the patch that ends every
strategy. -/

namespace ServiceExposure

/-! ## Names and ports -/

/-- Digits after an optional sign, for a number of 32 bits. -/
def int32OfText? (s : String) : Option Int32 :=
  match s.toList with
  | '-' :: ds => if Net.isDecimal ds then int32OfInt? (-(Net.ofDecimal ds : Int)) else none
  | '+' :: ds => if Net.isDecimal ds then int32OfInt? (Net.ofDecimal ds) else none
  | ds => if Net.isDecimal ds then int32OfInt? (Net.ofDecimal ds) else none

namespace Service

/-- The name of the object that routes to a service: the one it asks for, else its own name without
the first occurrence of its release and a hyphen. -/
def appName (s : Service) : String :=
  match s.setting? Annotation.ingressName with
  | some name => name
  | none =>
    match nonEmpty? (s.label? Annotation.release) with
    | none => s.name
    | some release =>
      match Text.cut? (release ++ "-") s.name with
      | some (before, after) => before ++ after
      | none => s.name

/-- The port to route to: the one the service asks for if it has it, else its first. -/
def exposedPort (s : Service) : Except Failure Int32 :=
  match s.ports with
  | [] => .error { cause := .noPorts s.key }
  | first :: _ =>
    match (s.setting? Annotation.exposePort).bind int32OfText? with
    -- a port that the service does not have is passed over without an error
    | some port => .ok (if s.ports.any (·.port = port) then port else first.port)
    | none => .ok first.port

end Service

/-! ## Marks -/

namespace Metadata

/-- Marks a routing object as made by the controller and owned by a service, next to earlier
owners. -/
def markedFor (m : Metadata) (s : Service) : Metadata :=
  let uid := s.metadata.uid.getD ""
  let owners := m.ownerReferences.getD []
  { m with
    labels := some ((m.labels.getD ∅).insertIfAbsent Annotation.provider.1 Annotation.provider.2)
    annotations :=
      some ((m.annotations.getD ∅).insertIfAbsent Annotation.generatedBy.1 Annotation.generatedBy.2)
    ownerReferences := some <|
      -- owners are told apart by their uid alone
      if owners.any (·.uid = uid) then owners
      else owners ++ [{ apiVersion := "v1", kind := "Service", name := s.name, uid }] }

end Metadata

/-! ## TLS -/

structure TlsSettings where
  secretName : Option String
  acme : Bool
  wildcard : Bool
deriving DecidableEq, Repr

namespace TlsSettings

def ofConfig (c : Config) : TlsSettings := ⟨nonEmpty? c.tlsSecretName, c.tlsAcme, c.tlsUseWildcard⟩

def enabledFor (t : TlsSettings) (s : Service) : Bool :=
  s.annotation? Annotation.skipTls ≠ some "true" && (t.acme || t.secretName.isSome)

def secretFor (t : TlsSettings) (app : String) : Option String :=
  t.secretName <|> if t.acme then some ("tls-" ++ app) else none

def protocol (enabled : Bool) : String := if enabled then "https" else "http"

end TlsSettings

/-! ## Exposures -/

/-- What it takes to expose a service, or to stop exposing it: the writes in order, and the service
as it will be. -/
structure Exposure where
  writes : List Write
  service : Service
deriving DecidableEq, Repr

namespace Exposure

/-- The merge patch between two states of a service. -/
def servicePatch? (observed desired : Service) : Option Json :=
  Json.diff? observed.toJson desired.toJson

/-- Routing writes, and a patch if the service changes. -/
def of (observed desired : Service) (writes : List Write) : Exposure :=
  ⟨writes ++ ((servicePatch? observed desired).map (Write.patchService observed.key)).toList,
    desired⟩

end Exposure

/-- Reads the template of a configuration. -/
def Config.template (c : Config) : Except Failure Template :=
  match Template.parse ((nonEmpty? c.urlTemplate).getD "") with
  | .ok t => .ok t
  | .error e => .error { contexts := ["failed to get a url format"], cause := .template e }

end ServiceExposure
