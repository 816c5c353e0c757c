import ServiceExposure.Propagation.Edit
import ServiceExposure.Yaml.Fields

/-! # Line rules

A service may list lines in its configuration map that are to be replaced. -/

namespace ServiceExposure

/-- The lines of the value of `key` that start with `start` become `start`, the value of an
expression and `ending`. -/
structure LineRule where
  key : String := ""
  expression : String := ""
  start : String := ""
  ending : String := ""
deriving DecidableEq, Repr, Inhabited

namespace LineRule

def ofYamlNode? (d : Yaml.Document) (n : Yaml.Node) : Option LineRule := do
  let members ← d.members? n
  let text (key : String) := Yaml.Document.field members key d.string? ""
  return {
    key := ← text "key"
    expression := ← text "expression"
    start := ← text "prefix"
    ending := ← text "suffix" }

def listOfYaml? (text : String) : Option (List LineRule) := do
  let d ← Yaml.document? text
  -- one rule that cannot be read spoils the list
  d.list? (ofYamlNode? d) d.content

/-- The edit that a rule stands for, where its key and the value of its expression are not empty. -/
def edit? (value? : String → Option String) (r : LineRule) : Option Edit := do
  let value ← nonEmpty? (value? r.expression)
  if r.key.isEmpty then none else some (.lines r.key r.start (r.start ++ value ++ r.ending))

end LineRule

end ServiceExposure
