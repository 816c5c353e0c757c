import ServiceExposure.Json.Printer
import ServiceExposure.Kube.Metadata

/-! # Requests to the API

The URLs of objects and collections, and the requests on them. Names go into a URL as they are; a
URL that is none makes no request. -/

namespace ServiceExposure.Api

inductive Verb where
  | get | post | put | patch | delete
deriving DecidableEq, Repr

def Verb.name : Verb → String
  | get => "GET"
  | post => "POST"
  | put => "PUT"
  | patch => "PATCH"
  | delete => "DELETE"

structure Request where
  verb : Verb
  path : String
  query : String := ""
  contentType : Option String := none
  /-- The type of answer that is wanted. -/
  accept : Option String := none
  body : Option Json := none
deriving DecidableEq, Repr

/-! ## URLs -/

/-- Characters that may stand in a path as they are. Those outside ASCII may. -/
def isPathChar (c : Char) : Bool := ' ' < c && c ≠ '<' && c ≠ '>' && c ≠ '\x60'

def isQueryChar (c : Char) : Bool := ' ' < c && c ≠ '"' && c ≠ '<' && c ≠ '>'

/-- The path and the query of a URL; what follows a `#` is dropped. -/
def cutUrl (url : String) : List Char × List Char :=
  let cs := url.toList.takeWhile (· ≠ '#')
  (Text.cutChars? ['?'] cs).getD (cs, [])

namespace Request

/-- A request without headers and body. -/
def ofUrl? (verb : Verb) (url : String) : Option Request :=
  let (path, query) := cutUrl url
  if path.all isPathChar && query.all isQueryChar then
    some { verb, path := .ofList path, query := .ofList query }
  else none

def withBody (r : Request) (contentType : String) (body : Json) : Request :=
  { r with contentType := some contentType, body := some body }

end Request

/-! ## Objects and collections -/

/-- The root of the API that a version belongs to; a version without a group is part of the core. -/
def versionUrl (apiVersion : String) : String :=
  (if apiVersion.toList.contains '/' then "/apis/" else "/api/") ++ apiVersion

variable (α : Type) [Resource α]

/-- The collection of all objects of a kind. -/
def clusterUrl : String := versionUrl (Resource.apiVersion α) ++ "/" ++ Resource.plural α

/-- The collection of the objects of a kind in a namespace. -/
def collectionUrl (inNamespace : String) : String :=
  versionUrl (Resource.apiVersion α) ++ "/namespaces/" ++ inNamespace ++ "/" ++ Resource.plural α

/-- An object; it must have a name. -/
def objectUrl? (key : ObjectKey) : Option String :=
  if key.name.isEmpty then none else some (collectionUrl α key.inNamespace ++ "/" ++ key.name)

def jsonType : String := "application/json"

def mergePatchType : String := "application/merge-patch+json"

def listAllRequest? : Option Request := Request.ofUrl? .get (clusterUrl α ++ "?")

def listRequest? (inNamespace : String) : Option Request :=
  Request.ofUrl? .get (collectionUrl α inNamespace ++ "?")

def getRequest? (key : ObjectKey) : Option Request := do Request.ofUrl? .get (← objectUrl? α key)

def deleteRequest? (key : ObjectKey) : Option Request := do
  let request ← Request.ofUrl? .delete ((← objectUrl? α key) ++ "?")
  return request.withBody jsonType (.object [])

def patchRequest? (key : ObjectKey) (patch : Json) : Option Request := do
  let request ← Request.ofUrl? .patch ((← objectUrl? α key) ++ "?")
  return { request.withBody mergePatchType patch with accept := some jsonType }

variable {α}

def createRequest? (object : α) : Option Request := do
  let request ← Request.ofUrl? .post (collectionUrl α (Resource.key object).inNamespace ++ "?")
  return request.withBody jsonType (Resource.toJson object)

def replaceRequest? (object : α) : Option Request := do
  let request ← Request.ofUrl? .put ((← objectUrl? α (Resource.key object)) ++ "?")
  return request.withBody jsonType (Resource.toJson object)

end ServiceExposure.Api
