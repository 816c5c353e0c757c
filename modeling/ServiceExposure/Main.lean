import ServiceExposure.Json.Printer
import ServiceExposure.Start

/-! # The command line program

Prints the configuration that a controller would run with. -/

open ServiceExposure

def readFile? (path : String) : IO (Option String) := do
  try return some (← IO.FS.readFile path) catch _ => return none

def main (args : List String) : IO UInt32 := do
  match ← start readFile? args with
  | .ok (_, config) =>
    IO.println (Json.write config.toJson)
    return 0
  | .error error =>
    IO.eprintln ("error: " ++ error.message)
    return match error with
      | .commandLine _ => 2
      | _ => 1
