import ServiceExposure.Kube.ConfigMap
import ServiceExposure.Text.Cut

/-! # Edits of configuration data -/

namespace ServiceExposure

inductive Edit where
  /-- Gives a key a value. -/
  | set (key value : String)
  /-- Gives a key a value unless it has one that is not empty. -/
  | fill (key value : String)
  /-- Replaces the lines that start with `start` in the value of a key. -/
  | lines (key start line : String)
deriving DecidableEq, Repr

namespace Edit

def key : Edit → String
  | set key _ | fill key _ | lines key _ _ => key

/-- Replaces the lines that start with `start`. -/
def replaceLines (start line : String) (text : String) : String :=
  .intercalate "\n" ((Text.split '\n' text).map fun l =>
    if Text.startsWith start l then line else l)

/-- The new value of the key, if the edit gives it one. -/
def newValue? (e : Edit) (data : StringDict) : Option String :=
  match e with
  | set _ value => some value
  | fill key value => if (nonEmpty? (data.get? key)).isSome then none else some value
  | lines key start line => (nonEmpty? (data.get? key)).map (replaceLines start line)

def apply (data : StringDict) (e : Edit) : StringDict :=
  match e.newValue? data with
  | some value => data.insert e.key value
  | none => data

end Edit

namespace ConfigMap

/-- Makes edits in order. Data that stay empty stay absent. -/
def edit (c : ConfigMap) (edits : List Edit) : ConfigMap :=
  let data := edits.foldl Edit.apply (c.data.getD ∅)
  -- no edit takes an entry away, so the data were empty or absent before: they stay what they were
  if data.isEmpty then c else { c with data := some data }

end ConfigMap

end ServiceExposure
