import ServiceExposure.CommandLine
import ServiceExposure.Config.File

/-! # Starting up

The command line names a configuration file, whose values it may override. -/

namespace ServiceExposure

/-- Why the controller does not start. -/
inductive StartError where
  | commandLine (error : CommandLine.Error)
  | unreadableFile (path : String)
  | malformedConfig
deriving DecidableEq, Repr

namespace StartError

def message : StartError → String
  | commandLine .unknownArgument => "unknown argument"
  | commandLine .argumentConflict => "argument given more than once"
  | commandLine .invalidValue => "argument lacks a value"
  | commandLine .valueValidation => "argument has a value that it does not take"
  | commandLine .tooManyValues => "flag given a value"
  | unreadableFile path => "failed to read " ++ path
  | malformedConfig => "failed to parse controller configuration"

end StartError

/-- Reads the text of a configuration file. -/
def Config.parse (text : String) : Except StartError Config :=
  match Config.ofYaml? text with
  | some c => .ok c
  | none => .error .malformedConfig

/-- The command line, and the configuration that results from it. `read?` gives the text of a
file. -/
def start {m : Type → Type} [Monad m] (read? : String → m (Option String)) (args : List String) :
    m (Except StartError (CommandLine × Config)) := do
  match CommandLine.parse args with
  | .error e => return .error (.commandLine e)
  | .ok line =>
    match line.configFile with
    | none => return .ok (line, Config.override {} line.overrides)
    | some path =>
      match ← read? path with
      | none => return .error (.unreadableFile path)
      | some text => return (Config.parse text).map fun c => (line, c.override line.overrides)

end ServiceExposure
