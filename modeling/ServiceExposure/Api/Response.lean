import ServiceExposure.Failure
import ServiceExposure.Json.Parser
import ServiceExposure.Text.Quoted

/-! # Responses of the API

A response is an error, or its body is read as what was asked for. -/

namespace ServiceExposure.Api

inductive Response where
  | answer (status : Nat) (body : String)
  /-- No answer came. -/
  | failure (message : String)
deriving DecidableEq, Repr

/-! ## Errors -/

/-- A text that may be missing. -/
def textOrMissing? (key : String) (j : Json) : Option String :=
  match j.member? key with
  | none => some ""
  | some value => value.string?

/-- The error that a body describes. -/
def statusError? (body : String) : Option ApiError := do
  let j ← Json.parse? body
  guard j.isObject
  let _ ← j.required? Json.string? "status"
  return .refused (← j.required? Json.uint16? "code") (← textOrMissing? "reason" j)
    (← textOrMissing? "message" j)

/-- The error of a response with an error status. A body that describes none is quoted. -/
def refusal (status : Nat) (body : String) : ApiError :=
  (statusError? body).getD (.refused status "Failed to parse error data" (Text.quote body))

def isErrorStatus (status : Nat) : Bool := 400 ≤ status && status < 600

/-- Reads a response. -/
def Response.read {α : Type} (read : Json → Option α) : Response → Except ApiError α
  | .failure message => .error (.unreachable message)
  | .answer status body =>
    if isErrorStatus status then .error (refusal status body)
    else
      match (Json.parse? body).bind read with
      | some value => .ok value
      | none => .error .unreadable

/-! ## Bodies -/

/-- The paths at the root of the API. -/
def paths? (j : Json) : Option (List String) := do
  match ← j.recordFields? ["paths"] 1 with
  | [paths] => paths.list? Json.string?
  | _ => none

/-- The metadata of a list. -/
def isListMetadata (j : Json) : Bool :=
  j.isObject && (j.optional? Json.string? "continue").isSome &&
    (j.optional? Json.string? "resourceVersion").isSome &&
    (j.optional? Json.string? "selfLink").isSome &&
      (j.optional? Json.int64? "remainingItemCount").isSome

/-- The items of a list; `null` stands for none. -/
def items? {α : Type} [Resource α] (j : Json) : Option (List α) := do
  guard (j.isObject && (j.member? "metadata").all isListMetadata)
  match ← j.member? "items" with
  | .null => some []
  | items => items.list? Resource.ofJson?

/-- An object that is read, but not looked at. -/
def anyObject? (α : Type) [Resource α] (j : Json) : Option Unit :=
  (Resource.ofJson? j : Option α).map fun _ => ()

/-- Whether a status document can be read. -/
def isStatus (j : Json) : Bool :=
  j.isObject && (j.member? "code").all (fun code => code.uint16?.isSome) &&
    (textOrMissing? "reason" j).isSome && (textOrMissing? "message" j).isSome &&
    (j.present? "status").all fun status => status = .string "Success" || status = .string "Failure"

/-- What a deletion answers: a status, or the object. -/
def deleted? (α : Type) [Resource α] (j : Json) : Option Unit :=
  if j.member? "kind" = some (.string "Status") then guard (isStatus j) else anyObject? α j

end ServiceExposure.Api
