import ServiceExposure.Kube.Metadata
import ServiceExposure.Platform
import ServiceExposure.Template

/-! # Failures

A failure is a cause inside the activities that it ended, the outermost first. -/

namespace ServiceExposure

/-- Why a request to the cluster's API failed. -/
inductive ApiError where
  /-- The server refused the request. -/
  | refused (code : Int) (reason message : String)
  /-- The answer could not be read. -/
  | unreadable
  /-- No answer came. -/
  | unreachable (message : String)
  /-- No request can be made of the names given. -/
  | badRequest
deriving DecidableEq, Repr

namespace ApiError

def message : ApiError → String
  | refused _ reason message => message ++ ": " ++ reason
  | unreadable => "unreadable response"
  | unreachable message => message
  | badRequest => "malformed request"

end ApiError

inductive Cause where
  | noPorts (service : ObjectKey)
  | multiplePorts (service : ObjectKey) (ports : Nat)
  | notSingleNode (nodes : Nat)
  | noNodeAddress (node : String)
  | noDomain
  | unsupported (exposer : Exposer) (platform : Platform)
  | unknownExposer (name : String)
  | template (error : Template.Error)
  /-- A call that was told to fail. -/
  | injected (call : String)
  | serviceNotFound (key : ObjectKey)
  | api (error : ApiError)
deriving DecidableEq, Repr

namespace Cause

def message : Cause → String
  | noPorts service => s!"service {service.text} has no ports specified"
  | multiplePorts service ports =>
    s!"service {service.text} has multiple ports specified ({ports}); " ++
      "node port strategy can only be used with single port services"
  | notSingleNode nodes =>
    s!"node port strategy can only be used with single node clusters - found {nodes} nodes"
  | noNodeAddress node => s!"host IP unknown for node {node}"
  | noDomain =>
    "no known automatic ways to get an external ip to use with nip.io; configure a domain"
  | unsupported exposer platform => s!"{exposer.name} strategy is not supported on {platform.name}"
  | unknownExposer name => "unknown exposer " ++ Text.quote name
  | template error => error.message
  | injected call => s!"injected failure: {call}"
  | serviceNotFound key => s!"service {key.text} not found"
  | api error => error.message

end Cause

structure Failure where
  contexts : List String := []
  cause : Cause
deriving DecidableEq, Repr

namespace Failure

def message (f : Failure) : String := .intercalate ": " (f.contexts ++ [f.cause.message])

/-- The failure seen from an activity around it. -/
def within (context : String) (f : Failure) : Failure :=
  { f with contexts := context :: f.contexts }

end Failure

/-- Actions in a monad that may fail. -/
abbrev Attempt (m : Type → Type) := ExceptT Failure m

namespace Attempt

variable {m : Type → Type} [Monad m] {α : Type}

def fail (cause : Cause) : Attempt m α := throw { cause }

def ofExcept (result : Except Failure α) : Attempt m α := ExceptT.mk (pure result)

/-- Runs an action as part of an activity. -/
def within (context : String) (action : Attempt m α) : Attempt m α :=
  ExceptT.adapt (Failure.within context) action

end Attempt

end ServiceExposure
