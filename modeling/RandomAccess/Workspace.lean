import RandomAccess.InstructionSet

/-!
What a run works on: its memory, the inputs still to come, the lines put out, and the log of all that
an onlooker saw. An observer of the memory is shown what every write has made of it. It may refuse what it sees,
but the write has been made by then.
-/

namespace RandomAccess

inductive Event where
  | memory (memory : Memory)
  | memoryText (text : String)
  | error (line : Int) (message : String)
  | output (text : String)
  /-- An input was asked for. -/
  | input
  deriving DecidableEq

/-- The report of an error to an onlooker. -/
def Diagnostic.event (diagnostic : Diagnostic) : Event :=
  .error (diagnostic.line.getD 0) diagnostic.message

/-- What an observer notes of a memory that it is shown. -/
inductive Sight where
  | nothing
  /-- All the cells. -/
  | cells
  | note (text : String)
  deriving DecidableEq, Repr

def Sight.event? (memory : Memory) : Sight → Option Event
  | .nothing => none
  | .cells => some (.memory memory)
  | .note text => some (.memoryText text)

/-- An observer is shown the memory after a write. It may refuse any memory, and then gives a reason. -/
structure Observer where
  view : Memory → Except String Sight

namespace Observer

def absent : Observer := ⟨fun _ => .ok .nothing⟩

/-- Sees the cells. -/
def snapshot : Observer := ⟨fun _ => .ok .cells⟩

/-- Sees the cells as the text of a table, and refuses numbers that are too long. -/
def table : Observer where
  view memory :=
    match memory.tableText? with
    | some text => .ok (.note (String.ofList text))
    | none => .error Numeral.limitMessage

/-- What an observer makes of the memory after a write. -/
def look (observer : Observer) (memory : Memory) : Except Fault (Option Event) :=
  match observer.view memory with
  | .ok sight => .ok (sight.event? memory)
  | .error reason => .error (.outOfRange reason)

end Observer

structure Workspace where
  memory : Memory
  inputs : List Input
  observer : Observer
  output : Array String
  events : Array Event

namespace Workspace

def start (inputs : List Input) (observer : Observer) : Workspace :=
  ⟨.empty, inputs, observer, #[], #[]⟩

def log (workspace : Workspace) (event : Event) : Workspace :=
  { workspace with events := workspace.events.push event }

/-- Put out one line. -/
def emit (workspace : Workspace) (text : String) : Workspace :=
  { workspace with output := workspace.output.push text, events := workspace.events.push (.output text) }

def emitAll (workspace : Workspace) (lines : List String) : Workspace :=
  lines.foldl emit workspace

/-- Take the next input. When none is left the input counts as cancelled. -/
def ask (workspace : Workspace) : Input × Workspace :=
  match workspace with
  | ⟨memory, inputs, observer, output, events⟩ =>
    (inputs.headD .cancel, ⟨memory, inputs.tail, observer, output, events.push .input⟩)

/-- Write a cell and show the memory to the observer. The write stands even if the observer refuses. -/
def write (workspace : Workspace) (address value : Int) : Workspace × Except Fault Unit :=
  match workspace with
  | ⟨memory, inputs, observer, output, events⟩ =>
    let memory := memory.write address value
    match observer.look memory with
    | .ok (some event) => (⟨memory, inputs, observer, output, events.push event⟩, .ok ())
    | .ok none => (⟨memory, inputs, observer, output, events⟩, .ok ())
    | .error fault => (⟨memory, inputs, observer, output, events⟩, .error fault)

/-- A write that the observer has to accept. -/
def writeAccepted (workspace : Workspace) (cell : Cell) : Except Fault Workspace :=
  match workspace.write cell.1 cell.2 with
  | (workspace, .ok ()) => .ok workspace
  | (_, .error fault) => .error fault

/-- Set cells before a run. The observer may refuse them, but nothing is logged. -/
def preset (workspace : Workspace) (cells : List Cell) : Except Fault Workspace := do
  let filled ← cells.foldlM writeAccepted workspace
  pure { filled with events := workspace.events }

/-- The workspace after an instruction, the lines it put out, and where to go next. -/
structure Outcome where
  workspace : Workspace
  output : List String
  next : Except Fault Move

/-- Carry out an effect: the write, then the output. A refused write ends it. -/
def apply (workspace : Workspace) (effect : Effect) : Outcome :=
  match effect.write? with
  | none => ⟨workspace.emitAll effect.output, effect.output, effect.next⟩
  | some (address, value) =>
    match workspace.write address value with
    | (workspace, .ok ()) => ⟨workspace.emitAll effect.output, effect.output, effect.next⟩
    | (workspace, .error fault) => ⟨workspace, [], .error fault⟩

/-- Carry out a command with an input that has been taken for it, if it takes one. -/
def perform (program : Program) (command : Command) (input : Input) (workspace : Workspace) : Outcome :=
  match command.effect program workspace.memory input with
  | .ok effect => workspace.apply effect
  | .error fault => ⟨workspace, [], .error fault⟩

/-- Carry out a statement by an instruction set. -/
def execute (set : InstructionSet) (program : Program) (statement : Statement) (workspace : Workspace) :
    Outcome :=
  match set.decode statement with
  | .error fault => ⟨workspace, [], .error fault⟩
  | .ok command =>
    if command.asks then
      let (input, workspace) := workspace.ask
      workspace.perform program command input
    else workspace.perform program command .cancel

end Workspace

end RandomAccess
