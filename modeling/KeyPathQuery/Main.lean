import KeyPathQuery.CommandLine.Report

/-!
The program: it looks for the configuration, answers the arguments, and writes the answer.
-/

set_option autoImplicit false
set_option relaxedAutoImplicit false

namespace KeyPathQuery

/-- What the program is for. -/
def purpose : Text :=
  "Translate JSON key-path operations into native query syntax\n".toList

/-- The path of the user's configuration, from the directory of configurations if that is given
by an absolute path, or else from the home directory. -/
def userConfigurationPath? (configurations home : Option String) : Option String :=
  let below (directory : String) := directory ++ "/jsonq/config.toml"
  match configurations with
  | some directory =>
    if directory.startsWith "/" then some (below directory)
    else home.map fun directory ↦ below (directory ++ "/.config")
  | none => home.map fun directory ↦ below (directory ++ "/.config")

/-- What is found at a path. -/
def findConfiguration (path : String) : IO CommandLine.ConfigurationFile := do
  try
    let content ← IO.FS.readFile path
    pure (.content content.toList)
  catch
    | .noFileOrDirectory .. => pure .absent
    | _ => pure .unreadable

/-- The answer to arguments. What help says beyond the purpose of the program is left open. -/
def answer (arguments : List String) : IO CommandLine.Report := do
  let texts := arguments.map String.toList
  let configurations ← IO.getEnv "XDG_CONFIG_HOME"
  let home ← IO.getEnv "HOME"
  let userPath := userConfigurationPath? configurations home
  let path :=
    match CommandLine.Arguments.read texts with
    | .ok read => (read.config.map String.ofList).or userPath
    | .error _ => none
  let file ←
    match path with
    | some path => findConfiguration path
    | none => pure .absent
  pure (.run (userPath.map String.toList) (fun _ ↦ file) texts .acceptor purpose)

end KeyPathQuery

/-- Answers the arguments and gives the exit code. -/
def main (arguments : List String) : IO UInt32 := do
  let report ← KeyPathQuery.answer arguments
  match report.choice with
  | some choice => IO.eprintln (String.ofList choice)
  | none => pure ()
  match report.failure with
  | some message => IO.eprintln ("Error: " ++ String.ofList message)
  | none => pure ()
  IO.print (String.ofList report.output)
  pure report.exitCode.toUInt32
