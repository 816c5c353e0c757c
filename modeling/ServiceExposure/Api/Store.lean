import ServiceExposure.Api.Request
import ServiceExposure.Api.Response
import ServiceExposure.Store

/-! # The store behind the API

Each call of the store is one request. -/

namespace ServiceExposure.Api

variable {m : Type → Type} [Monad m]

/-- Makes a request and reads the response. -/
def exchange {α : Type} (send : Request → m Response) (request : Option Request)
    (read : Json → Option α) :
    Attempt m α :=
  ExceptT.mk do
    match request with
    | none => return .error { cause := .api .badRequest }
    | some request =>
      match (← send request).read read with
      | .ok value => return .ok value
      | .error error => return .error { cause := .api error }

/-- Whether an object is missing, by the reason that the server gives. -/
def isMissing : Cause → Bool
  | .api (.refused _ reason _) => reason = "NotFound"
  | _ => false

/-- Whether an object was gone before it was deleted. -/
def isGone : Cause → Bool
  | .api (.refused code _ _) => code = 404
  | _ => false

def get? {α : Type} [Resource α] (send : Request → m Response) (key : ObjectKey) :
    Attempt m (Option α) :=
  tryCatch (some <$> exchange send (getRequest? α key) Resource.ofJson?) fun failure =>
    if isMissing failure.cause then pure none else throw failure

def list (α : Type) [Resource α] (send : Request → m Response) (inNamespace : String) :
    Attempt m (List α) :=
  Attempt.within s!"failed to list {Resource.plural α} in {inNamespace}"
    (exchange send (listRequest? α inNamespace) items?)

def create {α : Type} [Resource α] (send : Request → m Response) (object : α) : Attempt m Unit :=
  exchange send (createRequest? object) (anyObject? α)

def replace {α : Type} [Resource α] (send : Request → m Response) (object : α) : Attempt m Unit :=
  exchange send (replaceRequest? object) (anyObject? α)

def delete (α : Type) [Resource α] (send : Request → m Response) (key : ObjectKey) :
    Attempt m Unit :=
  tryCatch (exchange send (deleteRequest? α key) (deleted? α)) fun failure =>
    if isGone failure.cause then pure () else throw failure

def patch (α : Type) [Resource α] (send : Request → m Response) (key : ObjectKey) (patch : Json) :
    Attempt m Unit :=
  exchange send (patchRequest? α key patch) (anyObject? α)

def write (send : Request → m Response) : Write → Attempt m Unit
  | .createIngress i => create send i
  | .replaceIngress i => replace send i
  | .deleteIngress key => delete Ingress send key
  | .createRoute r => create send r
  | .replaceRoute r => replace send r
  | .deleteRoute key => delete Route send key
  | .patchService key changes => patch Service send key changes
  | .replaceConfigMap c => replace send c
  | .replaceDeployment d => replace send d

/-- The store of a cluster whose API answers requests. -/
def store (send : Request → m Response) : Store m where
  apiPaths :=
    Attempt.within "failed to list API paths" (exchange send (Request.ofUrl? .get "/") paths?)
  nodes := Attempt.within "failed to list nodes" (exchange send (listAllRequest? Node) items?)
  pod? key := get? send key
  service? key := get? send key
  ingresses ns := list Ingress send ns
  routes ns := list Route send ns
  configMaps ns := list ConfigMap send ns
  deployments ns := list Deployment send ns
  write w := write send w

end ServiceExposure.Api
