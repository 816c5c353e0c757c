import ServiceExposure.Api.Request
import ServiceExposure.Api.Response

/-! # Scripted servers

A server that answers as it has been told, and otherwise knows no objects and accepts what it is
sent. -/

namespace ServiceExposure.Api

structure Script where
  /-- The answer to every request, if there is but one. -/
  always : Option Response := none
  /-- Answers by verb and path. -/
  responses : Dict String Response := ∅
  /-- The requests so far, the last one first. -/
  requests : List Request := []
deriving Inhabited

namespace Script

def notFound : Response :=
  .answer 404 (Json.write (.ofMembers [("kind", .string "Status"), ("status", .string "Failure"),
    ("message", .string "not found"), ("reason", .string "NotFound"), ("code", .int 404)]))

/-- The answer to a request that the script does not mention. -/
def standard (r : Request) : Response :=
  match r.verb with
  | .get | .delete => notFound
  | .post | .put | .patch => .answer 200 (Json.write (r.body.getD .null))

/-- What the script calls a request. -/
def title (r : Request) : String := r.verb.name ++ " " ++ r.path

def send (r : Request) : StateM Script Response := do
  let script ← get
  set { script with requests := r :: script.requests }
  return (script.always <|> script.responses.get? (title r)).getD (standard r)

end Script

end ServiceExposure.Api
