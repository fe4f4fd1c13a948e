import RandomAccess.Report

/-!
A panel to watch a machine by: it loads a program, makes one step or runs to the end, and shows the
console, the memory and what comes next.
-/

namespace RandomAccess

namespace Panel

/-- What the panel shows. -/
structure Screen where
  console : String
  memory : String
  status : String
  deriving DecidableEq, Repr

/-- The step limit of every machine on the panel. -/
def stepLimit : Nat := 10000

def padRight (width : Nat) (text : Text) : Text :=
  text ++ List.replicate (width - text.length) ' '

def padLeft (width : Nat) (text : Text) : Text :=
  List.replicate (width - text.length) ' ' ++ text

/-- A row of the memory table: the register, then its value. -/
def row? (cell : Cell) : Option Text := do
  let address ← Numeral.text? cell.1
  let value ← Numeral.text? cell.2
  let name := if cell.1 = Memory.accumulator then "r0 (acc)".toList else 'r' :: address
  pure (' ' :: ' ' :: padRight 10 name ++ ' ' :: padLeft 12 value)

/-- The memory as a table, one register a row; nothing when a number is too long. -/
def memoryText? (memory : Memory) : Option Text := do
  let rows ← memory.cells.mapM row?
  pure (['\n'].intercalate ("MEMORY".toList :: List.replicate 30 '=' :: rows))

/-- All that was put out, and then all errors. -/
def consoleLines (machine : Machine) : List String :=
  machine.workspace.output.toList ++ machine.errors.map (·.render)

/-- How the run ended, or the line that comes next. -/
def statusText (machine : Machine) : String :=
  let status := machine.status
  if status.errored then "**Errored** after " ++ toString status.stepCount ++ " steps"
  else if status.halted then "**Halted** after " ++ toString status.stepCount ++ " steps"
  else
    match machine.program.line? status.pc with
    | some line =>
      let source := Text.trim line.source
      let shown := if source.isEmpty then "(empty)" else String.ofList source
      "Next: line " ++ toString line.number ++ " `" ++ shown ++ "`"
    | none => "Next: line " ++ toString status.line ++ " (end of program)"

/-- The screen of a machine after a call that may have ended in an error; nothing when the memory
cannot be shown. -/
def screen? (machine : Machine) (error? : Option Diagnostic) : Option Screen := do
  let memory ← memoryText? machine.memory
  let failure := match error? with
    | some diagnostic => "\n\nRuntime: " ++ diagnostic.render
    | none => ""
  pure ⟨"\n".intercalate (consoleLines machine), String.ofList memory, statusText machine ++ failure⟩

/-- The screen after a call, as far as the call comes back with one: an error that is no report is passed on. -/
def answer? (machine : Machine) : Option Machine.Failure → Option Screen
  | none => screen? machine none
  | some (.reported diagnostic) => screen? machine (some diagnostic)
  | some (.escaped _) => none

def idleScreen : Screen := ⟨"Load a program first", "", ""⟩

end Panel

/-- The panel holds a machine once a program has been loaded. -/
structure Panel where
  machine? : Option Machine := none

namespace Panel

/-- Load a program with its inputs listed in a text. -/
def load (source inputs : Text) : Panel × Option Screen :=
  match Machine.load source ((Text.listed inputs).map .text) (some stepLimit) .absent with
  | .ok machine => (⟨some machine⟩, screen? machine none)
  | .error diagnostic => (⟨none⟩, some ⟨diagnostic.render, "", "**Load failed**"⟩)

def step (panel : Panel) : Panel × Option Screen :=
  match panel with
  | ⟨none⟩ => (⟨none⟩, some idleScreen)
  | ⟨some machine⟩ =>
    match machine.step with
    | (machine, .ok _) => (⟨some machine⟩, answer? machine none)
    | (machine, .error failure) => (⟨some machine⟩, answer? machine (some failure))

/-- Run the machine to its end, which the step limit brings about at the latest. -/
def run (panel : Panel) : Panel × Option Screen :=
  match panel with
  | ⟨none⟩ => (⟨none⟩, some idleScreen)
  | ⟨some machine⟩ =>
    match machine.runFor (stepLimit + 1) with
    | (machine, error?) => (⟨some machine⟩, answer? machine error?)

/-- The memory table, which is empty without a machine. -/
def memoryTable? (panel : Panel) : Option Text :=
  match panel.machine? with
  | none => some []
  | some machine => memoryText? machine.memory

end Panel

end RandomAccess
