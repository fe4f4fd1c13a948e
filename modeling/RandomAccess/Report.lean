import RandomAccess.Machine
import RandomAccess.Printout

/-!
What a machine tells of its run: a summary of where it stands, and a listing of its trace that shows
for each step which cells it changed.
-/

namespace RandomAccess

/-- A cell that differs from an earlier memory. -/
structure Change where
  address : Int
  old? : Option Int
  new : Int
  deriving DecidableEq, Repr

namespace Change

/-- A cell that was not defined before is shown with a dash. -/
def text? (change : Change) : Option Text := do
  let address ← Numeral.text? change.address
  let old ← match change.old? with
    | some old => Numeral.text? old
    | none => some ['-']
  let new ← Numeral.text? change.new
  pure ('r' :: address ++ ": ".toList ++ old ++ " → ".toList ++ new)

end Change

/-- The cells of a memory that an earlier one does not have, in ascending order. -/
def Memory.changes (earlier later : Memory) : List Change :=
  later.cells.filterMap fun cell =>
    let old? := earlier.get? cell.1
    if old? = some cell.2 then none else some ⟨cell.1, old?, cell.2⟩

namespace Entry

def outcome (entry : Entry) : String :=
  match entry.error? with
  | none => "OK"
  | some diagnostic => "ERROR: " ++ diagnostic.message

def changeLines (changes : List Change) : List (Option String) :=
  if changes.isEmpty then []
  else [(changes.mapM Change.text?).map fun texts =>
    "  Changes: " ++ String.ofList ([',', ' '].intercalate texts)]

/-- A jump or a halt is shown; going on to the next line is not. -/
def moveLines (entry : Entry) : List (Option String) :=
  if entry.after.pc ≠ entry.before.pc + 1 ∧ entry.error? = none then
    [some ("  PC: " ++ toString entry.before.pc ++ " → " ++ toString entry.after.pc)]
  else []

/-- The lines that show a step, after the memory that the step before it left. -/
def lines (earlier : Memory) (entry : Entry) : List (Option String) :=
  [some ("\n[Step " ++ toString entry.step ++ "] line " ++ toString entry.line ++ " " ++ entry.outcome),
    some ("  Instruction: " ++ String.ofList entry.instruction)] ++
    changeLines (earlier.changes entry.memory) ++ entry.moveLines ++
    entry.output.map fun text => some ("  Output: " ++ text)

end Entry

namespace Machine

/-- Print the steps of a trace, each against the memory before it. -/
def printSteps (earlier : Memory) (printout : Printout) : List Entry → Printout
  | [] => printout
  | entry :: rest => printSteps entry.memory (printout.lines (entry.lines earlier)) rest

def headingLines (title : String) : List (Option String) :=
  [some title, some (Printout.ruler '=' 70)]

def finalLines (machine : Machine) : List (Option String) :=
  [some ("\n" ++ Printout.ruler '=' 70)] ++ headingLines "FINAL STATE" ++
    [machine.memory.text?.map fun text => "  Memory: " ++ String.ofList text,
      some ("  PC: " ++ toString machine.status.pc),
      some ("  Steps: " ++ toString machine.status.stepCount),
      some ("  Halted: " ++ Printout.flag machine.status.halted),
      some ("  Errored: " ++ Printout.flag machine.status.errored)]

/-- Print the trace and the final state. -/
def printTrace (machine : Machine) (printout : Printout) : Printout :=
  let opened := (printout.line (some (Printout.ruler '=' 70))).lines (headingLines "RAM EXECUTION TRACE")
  (printSteps .empty opened machine.trace.toList).lines machine.finalLines

end Machine

structure Summary where
  steps : Int
  halted : Bool
  errored : Bool
  pc : Int
  memory : Memory
  output : List String
  traceLength : Nat
  errors : List String

def Machine.summary (machine : Machine) : Summary where
  steps := machine.status.stepCount
  halted := machine.status.halted
  errored := machine.status.errored
  pc := machine.status.pc
  memory := machine.memory
  output := machine.output
  traceLength := machine.trace.size
  errors := machine.errors.map (·.render)

end RandomAccess
