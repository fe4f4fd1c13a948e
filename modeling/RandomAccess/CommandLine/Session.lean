import RandomAccess.CommandLine.Options
import RandomAccess.Report

/-!
A run from the command line: the program is found and loaded, the machine runs, and what it did is
printed. The output is text, and the exit code tells whether the program halted.
-/

namespace RandomAccess

namespace Session

/-- What stands at the path of a program. -/
inductive Found where
  | text (content : Text)
  | missing
  | directory
  /-- Nothing can stand there: the path or one of its names is too long. -/
  | nameTooLong
  deriving DecidableEq, Repr

/-- A run that breaks off without an exit code. -/
inductive Failure where
  /-- A number is too long to be printed. -/
  | numberTooLong
  | isDirectory (path : Text)
  | nameTooLong (path : Text)
  /-- The inputs were to be listed, and no list was given. -/
  | inputsLost
  deriving DecidableEq, Repr

namespace Failure

def message : Failure → String
  | .numberTooLong => Numeral.limitMessage
  | .isDirectory path => "[Errno 21] Is a directory: " ++ String.ofList (Text.quoted path)
  | .nameTooLong path => "[Errno 36] File name too long: " ++ String.ofList (Text.quoted path)
  | .inputsLost => "'list' object has no attribute 'split'"

end Failure

inductive Ending where
  | exit (code : Nat)
  | failure (failure : Failure)
  deriving DecidableEq, Repr

structure Result where
  output : String
  ending : Ending
  deriving DecidableEq, Repr

/-- The slashes that a path from the root begins with. Two of them are kept apart from one, and more
count as one. -/
def rootOf (path : Text) : Text :=
  match (path.takeWhile (· == '/')).length with
  | 0 => []
  | 2 => ['/', '/']
  | _ => ['/']

/-- A path without empty components and without those that stay in place. -/
def normalPath (path : Text) : Text :=
  let root := rootOf path
  let components := (path.splitOn '/').filter fun part => !part.isEmpty && part != ['.']
  let whole := root ++ ['/'].intercalate components
  if whole.isEmpty then ['.'] else whole

def prompt : String := "Input number: "

/-- What an event shows on the output. -/
def shown (quiet prompting : Bool) : Event → String
  | .output text => if quiet then "" else text ++ "\n"
  | .input => if prompting then prompt else ""
  | _ => ""

def shownAll (quiet prompting : Bool) (events : List Event) : String :=
  String.join (events.map (shown quiet prompting))

/-- A line that quiet mode leaves out. -/
def remark (quiet : Bool) (line : String) : String :=
  if quiet then "" else line ++ "\n"

/-- The source of the program with what is said on opening it, or how the run ends without one. -/
def openSource (options : Options) (found : Found) : Except Result (Text × String) :=
  match Options.given options.program? with
  | some path =>
    match found with
    | .missing =>
      .error ⟨"Error: Program file not found: " ++ String.ofList path ++ "\n", .exit 1⟩
    | .directory => .error ⟨"", .failure (.isDirectory (normalPath path))⟩
    | .nameTooLong => .error ⟨"", .failure (.nameTooLong (normalPath path))⟩
    | .text content =>
      .ok (Text.unifyBreaks content, remark options.quiet ("Loading program: " ++ String.ofList path))
  | none =>
    .ok ((options.inline?.getD []).map fun c => if c = '|' then '\n' else c,
      remark options.quiet "Running inline program")

/-- The inputs given by an option, or the lines of the standard input. -/
def inputs (options : Options) (standardInput : Text) : List Input :=
  match options.inputs with
  | .listed values => (Text.listed values).map .text
  | .prompt => (Text.readLines (Text.unifyBreaks standardInput)).map .text
  | .lost => []

/-- Whether inputs are prompted for. -/
def prompting (options : Options) : Bool :=
  options.inputs = .prompt

/-- A loaded machine and what has been printed so far, or how the run ends before it starts. -/
def start (options : Options) (found : Found) (inputs : List Input) : Except Result (Machine × String) := do
  let (source, opening) ← openSource options found
  if options.inputs = .lost then .error ⟨opening, .failure .inputsLost⟩
  else match Machine.load source inputs options.limit .absent with
  | .error diagnostic => .error ⟨opening ++ "Load error: " ++ diagnostic.render ++ "\n", .exit 1⟩
  | .ok machine =>
    .ok (machine,
      opening ++ shownAll options.quiet (prompting options) machine.workspace.events.toList ++
        remark options.quiet (Printout.ruler '-' 60))

/-- What is printed of a run: the trace, the bare output, or a summary. -/
def report (options : Options) (machine : Machine) (printout : Printout) : Printout :=
  if options.trace then machine.printTrace printout
  else if options.quiet then
    printout.lines ((machine.output.filter fun text => !Command.haltMessages.contains text).map some)
  else
    printout.lines
      [some "", some ("Steps: " ++ toString machine.status.stepCount),
        some ("Halted: " ++ Printout.flag machine.status.halted),
        machine.memory.text?.map fun text => "Memory: " ++ String.ofList text]

def errorLines : Option Diagnostic → List (Option String)
  | some diagnostic => [some ("Execution error: " ++ diagnostic.render)]
  | none => []

/-- Print the end of a run after what was printed before it. -/
def finish (options : Options) (machine : Machine) (error? : Option Diagnostic) (printed : String) : Result :=
  let printout := report options machine (Printout.lines ⟨printed, true⟩ (errorLines error?))
  let ending :=
    if printout.complete then .exit (if machine.status.halted then 0 else 1)
    else .failure .numberTooLong
  ⟨printout.text, ending⟩

/-- End a session after its run. An error that is no report breaks it off. -/
def close (options : Options) (machine : Machine) (error? : Option Machine.Failure) (printed : String) : Result :=
  match error? with
  | none => finish options machine none printed
  | some (.reported diagnostic) => finish options machine (some diagnostic) printed
  | some (.escaped _) => ⟨printed, .failure .numberTooLong⟩

/-- A whole run, of no more steps than the fuel allows. -/
def run (fuel : Nat) (options : Options) (found : Found) (standardInput : Text) : Result :=
  match start options found (inputs options standardInput) with
  | .error result => result
  | .ok (machine, printed) =>
    let before := machine.workspace.events.size
    match machine.runFor fuel with
    | (machine, error?) =>
      let events := machine.workspace.events.toList.drop before
      close options machine error? (printed ++ shownAll options.quiet (prompting options) events)

end Session

end RandomAccess
