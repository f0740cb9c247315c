import RowQuery.Command.Run
/-!
# The command

Looks up what a run may look at, runs it, and writes out what it leaves behind.
-/

namespace RowQuery.Command

/-- The variables that a run may look at. -/
def variableNames : List String :=
  [Invocation.configVariable, "XDG_CONFIG_HOME", "HOME", "RUST_LOG", "CLICOLOR_FORCE", "NO_COLOR",
   "CLICOLOR"]

/-- The values of the variables that are set. -/
def getValues : IO (List (String × String)) := do
  let mut values := []
  for name in variableNames do
    match ← IO.getEnv name with
    | some v => values := (name, v) :: values
    | none => pure ()
  return values

/-- What a fault of the machine says about a path. -/
def foundBy (e : IO.Error) : Found :=
  match e with
  | .inappropriateType _ 21 _ => .directory
  | .inappropriateType .. => .throughFile
  | .invalidArgument .. => .tooLong
  | _ => .missing

/-- What a path leads to on this machine. -/
def look (path : String) : IO Found := do
  try
    let bytes ← IO.FS.readBinFile path
    return match String.fromUTF8? bytes with
      | some text => .text text
      | none => .bytes
  catch e => return foundBy e

end RowQuery.Command

open RowQuery.Command in
def main (args : List String) : IO UInt32 := do
  let values ← getValues
  let isTerminal ← (← IO.getStdout).isTty
  let blind : Surroundings := ⟨fun name => values.lookup name, fun _ => .missing, isTerminal⟩
  let mut files := []
  for path in paths blind args do
    files := (path, ← look path) :: files
  let known := files
  let s : Surroundings := { blind with file := fun path => (known.lookup path).getD .missing }
  let outcome := run s args
  (← IO.getStderr).putStr outcome.err
  (← IO.getStdout).putStr outcome.out
  return outcome.code
