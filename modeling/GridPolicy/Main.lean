import GridPolicy.CommandLine

/-!
The program: takes the arguments and the environment, reads the file that a command
names, and prints what the command answers.
-/
namespace GridPolicy.CommandLine

/-- Looks at a path. -/
def lookAt (path : String) : IO Found := do
  try
    return .contents (← IO.FS.readFile path)
  catch
    | .noFileOrDirectory .. => return .missing
    | _ => return .unreadable

/-- The environment variables that the library knows. -/
def readEnvironment : IO Environment := do
  let names := [Config.levelVariable, Config.instanceVariable, Config.logsVariable,
    Config.pathVariable]
  let known ← names.mapM fun name => do return (name, ← IO.getEnv name)
  return fun name => (known.lookup name).join

end GridPolicy.CommandLine

open GridPolicy.CommandLine in
def main (arguments : List String) : IO UInt32 := do
  let home := (← IO.getEnv "HOME").getD ""
  let ending ←
    match run (← readEnvironment) home arguments with
    | .done ending => pure ending
    | .read path next => do pure (next (← lookAt path))
  IO.print ending.output
  return ending.exitCode.toUInt32
