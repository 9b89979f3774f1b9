/-
  Routing/Main.lean
  =================
  **The command-line program.**  It reads the configuration file if one is needed,
  writes what the run answers and exits with its code.
-/
import Routing.CommandLine.Run

open Routing.CommandLine

def readConfig (path : String) : IO (Except FileError String) := do
  try
    return .ok (← IO.FS.readFile path)
  catch e =>
    return .error ⟨toString e⟩

def main (arguments : List String) : IO UInt32 := do
  let request := Request.ofArguments arguments
  let content ←
    match request.config? with
    | some path => readConfig path
    | none => pure (.ok "")
  let program := (← IO.appPath).fileStem.getD "routing"
  let outcome := request.outcome program content
  IO.print outcome.stdout
  IO.eprint outcome.stderr
  return outcome.code.toUInt32
