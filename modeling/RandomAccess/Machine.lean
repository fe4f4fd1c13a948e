import RandomAccess.Workspace

/-!
A machine is a loaded program, a step limit, the status of its run, the workspace, the trace and the buffer of its output.
The trace has one entry for each attempted step. A step that cannot be made, or that fails, makes the run errored
for good; its entry carries the error. Only a step limit too long to be written leaves nothing behind: the step that it
refuses raises an error that the machine knows nothing of.
-/

namespace RandomAccess

/-- The record of one attempted step. -/
structure Entry where
  /-- How many steps were made before this one. -/
  step : Int
  line : Int
  instruction : Text
  before : Status
  after : Status
  memory : Memory
  output : List String
  error? : Option Diagnostic
  deriving DecidableEq

/-- The lines put out since the last step began. -/
structure Buffer where
  lines : List String := []
  /-- Whether the last entry of the trace has these very lines as its output. -/
  shared : Bool := false
  deriving DecidableEq, Repr

structure Machine where
  program : Program
  limit : Option Int
  status : Status
  workspace : Workspace
  trace : Array Entry
  buffer : Buffer

namespace Machine

/-- What a step raises that does not succeed. -/
inductive Failure where
  | reported (diagnostic : Diagnostic)
  /-- The error was not put into words, for the reason given, and the machine has taken no notice of it. -/
  | escaped (reason : String)
  deriving DecidableEq, Repr

instance : Coe Diagnostic Failure := ⟨.reported⟩

def readyMessage : String := "RAM compiler is ready"

/-- A machine at the start of a program, which has just said that it is ready. -/
def start (program : Program) (inputs : List Input) (limit : Option Int) (observer : Observer) : Machine :=
  ⟨program, limit, {}, (Workspace.start inputs observer).emit readyMessage, #[], ⟨[readyMessage], false⟩⟩

def load (source : Text) (inputs : List Input) (limit : Option Int) (observer : Observer) :
    Except Diagnostic Machine := do
  let program ← Program.load source
  pure (start program inputs limit observer)

/-- The line to execute next, or why there is none. -/
def fetch (program : Program) (limit : Option Int) (status : Status) : Except Fault Line :=
  if status.halted then .error .alreadyHalted
  else if status.errored then .error .alreadyFailed
  else
    match limit.filter (· ≤ status.stepCount) with
    | some limit => .error (.stepLimit limit)
    | none =>
      match program.line? status.pc with
      | some line => .ok line
      | none => .error .endOfProgram

/-- The status after a step. A failure leaves the program counter and the step count alone. -/
def advance (status : Status) : Except Fault Move → Status
  | .ok move => (status.move move).countStep
  | .error _ => status.fail

/-- End a step: change the status, record the step, and report its error. -/
def conclude (program : Program) (limit : Option Int) (status : Status) (trace : Array Entry)
    (instruction : Text) (outcome : Workspace.Outcome) : Machine × Except Failure Entry :=
  match outcome with
  | ⟨workspace, output, next⟩ =>
    let after := advance status next
    match next with
    | .ok _ =>
      let entry : Entry :=
        ⟨status.stepCount, status.line, instruction, status, after, workspace.memory, output, none⟩
      (⟨program, limit, after, workspace, trace.push entry, ⟨output, true⟩⟩, .ok entry)
    | .error fault =>
      let diagnostic := fault.atLine status.line
      let entry : Entry :=
        ⟨status.stepCount, status.line, instruction, status, after, workspace.memory, output,
          some diagnostic⟩
      (⟨program, limit, after, workspace.log diagnostic.event, trace.push entry, ⟨output, true⟩⟩, .error diagnostic)

/-- Attempt one step. The buffer is emptied first. An error that says why there is no line to execute is put into words
before it is reported, and one that cannot be escapes. -/
def step (machine : Machine) : Machine × Except Failure Entry :=
  match machine with
  | ⟨program, limit, status, workspace, trace, _⟩ =>
    match fetch program limit status with
    | .error fault =>
      if fault.Worded then conclude program limit status trace [] ⟨workspace, [], .error fault⟩
      else (⟨program, limit, status, workspace, trace, {}⟩, .error (.escaped Numeral.limitMessage))
    | .ok line =>
      conclude program limit status trace line.text
        (workspace.execute .standard program (Statement.ofText line.text))

/-- Step until the run is finished, but no more often than the fuel allows. The error is the one that
ended the run, if this call met it. -/
def runFor : Nat → Machine → Machine × Option Failure
  | 0, machine => (machine, none)
  | fuel + 1, machine =>
    if machine.status.finished then (machine, none)
    else
      match machine.step with
      | (machine, .ok _) => runFor fuel machine
      | (machine, .error failure) => (machine, some failure)

/-- Put out a line between two steps. It goes to the buffer, and so to the entry that shares it. -/
def emit (machine : Machine) (text : String) : Machine :=
  match machine with
  | ⟨program, limit, status, workspace, trace, ⟨lines, shared⟩⟩ =>
    let lines := lines ++ [text]
    let trace :=
      if shared then trace.modify (trace.size - 1) fun entry => { entry with output := lines } else trace
    ⟨program, limit, status, workspace.emit text, trace, ⟨lines, shared⟩⟩

/-- Take an input between two steps. -/
def ask (machine : Machine) : Input × Machine :=
  match machine with
  | ⟨program, limit, status, workspace, trace, buffer⟩ =>
    let (input, workspace) := workspace.ask
    (input, ⟨program, limit, status, workspace, trace, buffer⟩)

/-- Write a cell between two steps. -/
def write (machine : Machine) (address value : Int) : Machine × Except Fault Unit :=
  match machine with
  | ⟨program, limit, status, workspace, trace, buffer⟩ =>
    let (workspace, result) := workspace.write address value
    (⟨program, limit, status, workspace, trace, buffer⟩, result)

/-- Whether the next step takes an input and none is left. -/
def awaitsInput (machine : Machine) : Bool :=
  machine.workspace.inputs.isEmpty &&
    match fetch machine.program machine.limit machine.status with
    | .ok line =>
      match InstructionSet.standard.decode (Statement.ofText line.text) with
      | .ok command => command.asks
      | .error _ => false
    | .error _ => false

/-- Add an input after those that are left. -/
def supply (machine : Machine) (input : Input) : Machine :=
  match machine with
  | ⟨program, limit, status, ⟨memory, inputs, observer, output, events⟩, trace, buffer⟩ =>
    ⟨program, limit, status, ⟨memory, inputs ++ [input], observer, output, events⟩, trace, buffer⟩

def setLimit (machine : Machine) (limit : Option Int) : Machine :=
  { machine with limit }

def memory (machine : Machine) : Memory :=
  machine.workspace.memory

/-- The errors of all attempted steps. -/
def errors (machine : Machine) : List Diagnostic :=
  machine.trace.toList.filterMap (·.error?)

/-- The lines put out so far, without the one that says the machine is ready. -/
def output (machine : Machine) : List String :=
  machine.workspace.output.toList.drop 1

end Machine

end RandomAccess
