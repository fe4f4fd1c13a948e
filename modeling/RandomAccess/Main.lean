import RandomAccess.CommandLine.Session

/-!
The command line program: it reads the arguments, the program file and the standard input, and prints
what a session says.
-/

namespace RandomAccess

namespace Session

def helpText : String :=
  "usage: [-h] [--program PATH] [--inline TEXT] [--input VALUES] [--max-steps N] [--trace] [--quiet] [--verbose]"

/-- What stands at a path on disk. A path that cannot be opened leads nowhere; a directory can be
opened, but not read. -/
def find (path : Text) : IO Found := do
  try
    let content ← IO.FS.readFile (String.ofList (normalPath path))
    pure (.text content.toList)
  catch
    | .noFileOrDirectory .. | .invalidArgument _ 22 _ | .inappropriateType (some _) .. => pure .missing
    | .invalidArgument .. => pure .nameTooLong
    | .inappropriateType none .. => pure .directory
    | error => throw error

/-- Read one line from the standard input; at its end an input is cancelled. -/
def readInput : IO Input := do
  let line ← (← IO.getStdin).getLine
  if line.isEmpty then pure .cancel
  else pure (.text ((Text.readLines (Text.unifyBreaks line.toList)).headD []))

/-- Run a machine, printing what it says as it goes, and ask for an input when it needs one. -/
partial def converse (options : Options) (machine : Machine) : IO (Machine × Option Machine.Failure) := do
  if machine.status.finished then return (machine, none)
  let ready ←
    if prompting options && machine.awaitsInput then do
      IO.print prompt
      (← IO.getStdout).flush
      pure (machine.supply (← readInput))
    else pure machine
  let seen := ready.workspace.events.size
  match ready.step with
  | (next, result) =>
    let events := next.workspace.events.extract seen next.workspace.events.size
    IO.print (shownAll options.quiet false events.toList)
    match result with
    | .ok _ => converse options next
    | .error failure => return (next, some failure)

/-- Print a result; the exit code tells how it ended. -/
def conclude (result : Result) : IO UInt32 := do
  IO.print result.output
  match result.ending with
  | .exit code => return code.toUInt32
  | .failure failure =>
    IO.eprintln failure.message
    return 1

def invoke (arguments : List String) : IO UInt32 := do
  match Options.parse (arguments.map String.toList) with
  | .error .help =>
    IO.println helpText
    return 0
  | .error .usage =>
    IO.eprintln helpText
    return 2
  | .ok options =>
    let found ← match Options.given options.program? with
      | some path => find path
      | none => pure .missing
    let values := if prompting options then [] else inputs options []
    match start options found values with
    | .error result => conclude result
    | .ok (machine, printed) =>
      IO.print printed
      match ← converse options machine with
      | (machine, error?) => conclude (close options machine error? "")

end Session

end RandomAccess

def main (arguments : List String) : IO UInt32 :=
  RandomAccess.Session.invoke arguments
