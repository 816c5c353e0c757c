import ServiceExposure.Base64
import ServiceExposure.Kube.Metadata

/-! # Configuration maps

Texts by key, and bytes by key. All fields of the API are here. -/

namespace ServiceExposure

structure ConfigMap where
  metadata : Metadata := {}
  data : Option StringDict := none
  binaryData : Option (Dict String (List UInt8)) := none
  immutable : Option Bool := none
deriving DecidableEq, Repr, Inhabited

namespace ConfigMap

def bytes? : Json.Reader (List UInt8)
  | .string s => Base64.decode? s
  | _ => none

def toJson (c : ConfigMap) : Json :=
  .ofPresent (Resource.heading "ConfigMap" "v1" c.metadata ++ [
    ("data", c.data.map .ofStringDict),
    ("binaryData", c.binaryData.map (.ofDict fun b => .string (Base64.encode b))),
    ("immutable", c.immutable.map .bool)])

def ofJson? (j : Json) : Option ConfigMap := do
  Resource.checked "ConfigMap" "v1" j
  return {
    metadata := ← j.withDefault? Metadata.ofJson? {} "metadata"
    data := ← j.optional? Json.stringDict? "data"
    binaryData := ← j.optional? (Json.dict? bytes?) "binaryData"
    immutable := ← j.optional? Json.bool? "immutable" }

instance : Resource ConfigMap where
  kind := "ConfigMap"
  apiVersion := "v1"
  plural := "configmaps"
  metadata := ConfigMap.metadata
  toJson := toJson
  ofJson? := ofJson?

def value? (c : ConfigMap) (key : String) : Option String := c.data.bind (·.get? key)

def annotation? (c : ConfigMap) (key : String) : Option String := c.metadata.annotation? key

end ConfigMap

end ServiceExposure
