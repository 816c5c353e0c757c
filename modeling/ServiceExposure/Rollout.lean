import ServiceExposure.Annotation
import ServiceExposure.Kube.ConfigMap
import ServiceExposure.Kube.Workload
import ServiceExposure.Text.Blank
import ServiceExposure.Text.Cut

/-! # Rollouts

Deployments that read a configuration map carry a fingerprint of it in the environment of their
containers. Writing a new fingerprint makes the cluster replace their pods. -/

namespace ServiceExposure

/-- The data as `key=value`, by key, between semicolons. -/
def ConfigMap.fingerprint (c : ConfigMap) : String :=
  .intercalate ";" ((c.data.getD ∅).toList.map fun e => e.1 ++ "=" ++ e.2)

namespace Rollout

/-! ## Variable names -/

/-- Upper-case words of letters and digits, with one underscore after a word for the run of other
characters that follows it. `afterWord` tells whether a word has just been read. -/
def variableChars (afterWord : Bool) : List Char → List Char
  | [] => []
  | c :: cs =>
    if c.toUpper.isUpper || c.toUpper.isDigit then c.toUpper :: variableChars true cs
    else if afterWord then '_' :: variableChars false cs
    else variableChars false cs

/-- The environment variable that holds the fingerprint of a configuration map. -/
def variableName (configMap : String) : String :=
  "FABRIC8_" ++ .ofList (variableChars false configMap.toList) ++ "_CONFIGMAP"

/-! ## Stamping -/

/-- Whether a deployment restarts when the configuration map of that name changes. -/
def dependsOn (d : Deployment) (configMap : String) : Bool :=
  match d.metadata.annotation? Annotation.updateOnChange with
  | none => false
  | some names => (Text.split ',' names).any fun name => Text.trim name = configMap

/-- Gives the first variable of that name the value, or adds it at the end. A variable that has the
value stays as it is, one that has not no longer takes it from elsewhere. -/
def setVariable (name value : String) : List EnvVar → List EnvVar
  | [] => [{ name, value := some value }]
  | e :: env =>
    if e.name = name then
      (if e.value = some value then e else { e with value := some value, valueFrom := none }) :: env
    else e :: setVariable name value env

def stampContainer (name value : String) (c : Container) : Container :=
  { c with env := some (setVariable name value (c.env.getD [])) }

/-- The deployment with the fingerprint of the configuration map, if it depends on it. -/
def stamp (c : ConfigMap) (d : Deployment) : Deployment :=
  let configMap := c.metadata.displayName
  if dependsOn d configMap then
    d.mapContainers (stampContainer (variableName configMap) c.fingerprint)
  else d

def roll (c : ConfigMap) (ds : Dict String Deployment) : Dict String Deployment :=
  ds.map fun _ d => stamp c d

/-- The names of the deployments that a configuration map rolls. -/
def rolled (c : ConfigMap) (ds : Dict String Deployment) : List String :=
  (ds.toList.filter fun e => stamp c e.2 ≠ e.2).map (·.1)

/-- Rolls the deployments for each configuration map in turn: the deployments in the end, and the
names of all that changed on the way. -/
def rollAll : List ConfigMap → Dict String Deployment → Dict String Deployment × List String
  | [], ds => (ds, [])
  | c :: cs, ds =>
    let (final, later) := rollAll cs (roll c ds)
    -- a deployment that is rolled back to what it was counts as rolled
    (final, rolled c ds ++ later)

end Rollout

end ServiceExposure
