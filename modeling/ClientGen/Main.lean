import ClientGen.CommandLine.Run

/-!
# The command line tool

The system that the tool runs on: files are those of the operating system, and texts go to the
standard output and the standard error stream.
-/

namespace ClientGen.CommandLine

/-- The result of an action that may fail. -/
def attempt {α : Type} (action : IO α) : IO (Option α) := do
  try
    return some (← action)
  catch _ =>
    return none

/-- Whether there is something at a path, readable or not. -/
def isPresentOnDisk (path : String) : IO Bool := do
  try
    let _ ← IO.FS.Handle.mk path .read
    return true
  catch
    | .noFileOrDirectory .. => return false
    | _ => return true

/-- The requests to the operating system. -/
instance : Host IO where
  isPresent := isPresentOnDisk
  readText? path := attempt (IO.FS.readFile path)
  makePath path := do
    if path = "" then return true
    return (← attempt (IO.FS.createDirAll path)).isSome
  writeText path text := return (← attempt (IO.FS.writeFile path text)).isSome
  print text := do (← IO.getStdout).putStr text
  report line := IO.eprintln line

end ClientGen.CommandLine

/-- Runs the tool with the arguments given. -/
def main (args : List String) : IO UInt32 :=
  ClientGen.CommandLine.run args
