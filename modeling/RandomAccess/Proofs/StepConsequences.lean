import RandomAccess.Proofs.StepEffects

/-! What a step comes to, apart from what was there before it. A step leaves a memory, it may take the next
input, and it adds lines to the output and events to the log. All of that follows from the program, the memory,
the observer and the next input; the log, the output and the later inputs are only added to. -/

namespace RandomAccess

/-- The memory that an execution leaves, whether it takes an input, the lines and the events that it adds,
and where to go next. -/
structure Consequence where
  memory : Memory
  asked : Bool := false
  output : List String := []
  events : List Event := []
  next : Except Fault Move

namespace Consequence

/-- The same after an input has been asked for. -/
def afterAsking (consequence : Consequence) : Consequence :=
  { consequence with asked := true, events := .input :: consequence.events }

def outcome (consequence : Consequence) (workspace : Workspace) : Workspace.Outcome where
  workspace := ⟨consequence.memory, if consequence.asked then workspace.inputs.tail else workspace.inputs,
    workspace.observer, workspace.output ++ consequence.output, workspace.events ++ consequence.events⟩
  output := consequence.output
  next := consequence.next

end Consequence

namespace Effect

/-- Why the observer does not accept the write of an effect, if it does not. -/
def refusal? (effect : Effect) (observer : Observer) (memory : Memory) : Option Fault :=
  match effect.write? with
  | none => none
  | some (address, value) =>
    match observer.look (memory.write address value) with
    | .ok _ => none
    | .error fault => some fault

def consequence (effect : Effect) (observer : Observer) (memory : Memory) : Consequence :=
  match effect.refusal? observer memory with
  | some fault => { memory := effect.written memory, next := .error fault }
  | none => { memory := effect.written memory, output := effect.output,
              events := effect.seen observer memory ++ effect.output.map .output, next := effect.next }

end Effect

namespace Command

/-- What a command comes to with an input that has been taken for it. -/
def performed (program : Program) (memory : Memory) (observer : Observer) (input : Input) (command : Command) :
    Consequence :=
  match command.effect program memory input with
  | .ok effect => effect.consequence observer memory
  | .error fault => { memory, next := .error fault }

/-- One that does not ask is not given the input. -/
def consequence (program : Program) (memory : Memory) (observer : Observer) (input : Input) (command : Command) :
    Consequence :=
  if command.asks then (command.performed program memory observer input).afterAsking
  else command.performed program memory observer .cancel

theorem performed_asked {program : Program} {memory : Memory} {observer : Observer} {input : Input} {command : Command} :
    (command.performed program memory observer input).asked = false := by
  unfold performed
  split
  · unfold Effect.consequence
    split <;> rfl
  · rfl

end Command

def Statement.consequence (program : Program) (memory : Memory) (observer : Observer) (input : Input)
    (statement : Statement) : Consequence :=
  match InstructionSet.standard.decode statement with
  | .ok command => command.consequence program memory observer input
  | .error fault => { memory, next := .error fault }

namespace Workspace

variable (workspace : Workspace)

theorem apply_eq (effect : Effect) :
    workspace.apply effect = (effect.consequence workspace.observer workspace.memory).outcome workspace := by
  unfold apply Effect.consequence Effect.refusal? Effect.written Effect.seen
  cases effect.write? with
  | none => simp [Consequence.outcome, emitAll_eq]
  | some cell =>
    simp only [write]
    cases workspace.observer.look (workspace.memory.write cell.1 cell.2) with
    | error fault => simp [Consequence.outcome]
    | ok seen => cases seen <;> simp [Consequence.outcome, emitAll_eq]

theorem perform_eq (program : Program) (command : Command) (input : Input) :
    workspace.perform program command input =
      (command.performed program workspace.memory workspace.observer input).outcome workspace := by
  unfold perform Command.performed
  cases command.effect program workspace.memory input with
  | error fault => simp [Consequence.outcome]
  | ok effect => exact workspace.apply_eq effect

/-- A statement does to a workspace what its consequence says, and nothing else. -/
theorem execute_eq (program : Program) (statement : Statement) :
    workspace.execute .standard program statement =
      (statement.consequence program workspace.memory workspace.observer
        (workspace.inputs.headD .cancel)).outcome workspace := by
  unfold Statement.consequence
  cases decoded : InstructionSet.standard.decode statement with
  | error fault =>
    rw [execute_of_undecoded workspace decoded]
    simp [Consequence.outcome]
  | ok command =>
    rw [execute_of_decoded workspace decoded, perform_eq]
    simp only [Command.consequence, taken, answer]
    split
    · simp [Consequence.outcome, Consequence.afterAsking, Command.performed_asked, ask]
    · rfl

end Workspace

namespace Machine

variable (machine : Machine)

/-- The text of the line to execute next, or why there is none. -/
def fetched (machine : Machine) : Except Fault Text :=
  (fetch machine.program machine.limit machine.status).map Line.text

theorem fetched_eq :
    machine.fetched =
      if machine.status.halted then .error .alreadyHalted
      else if machine.status.errored then .error .alreadyFailed
      else match machine.limit.filter (· ≤ machine.status.stepCount) with
        | some limit => .error (.stepLimit limit)
        | none => ((machine.program.line? machine.status.pc).map Line.text).elim (.error .endOfProgram) .ok := by
  simp only [fetched, fetch]
  split
  · rfl
  split
  · rfl
  cases machine.limit.filter (· ≤ machine.status.stepCount) with
  | some limit => rfl
  | none => cases machine.program.line? machine.status.pc <;> rfl

theorem instruction_eq : machine.instruction = machine.fetched.toOption.getD [] := by
  simp only [instruction, fetched]
  cases fetch machine.program machine.limit machine.status <;> rfl

/-- What the next step comes to. -/
def consequence (machine : Machine) : Consequence :=
  match machine.fetched with
  | .ok text => (Statement.ofText text).consequence machine.program machine.workspace.memory machine.workspace.observer
      (machine.workspace.inputs.headD .cancel)
  | .error fault => { memory := machine.workspace.memory, next := .error fault }

theorem outcome_eq : machine.outcome = machine.consequence.outcome machine.workspace := by
  unfold outcome consequence fetched
  cases fetch machine.program machine.limit machine.status with
  | error fault => simp [Except.map, Consequence.outcome]
  | ok line => exact machine.workspace.execute_eq machine.program _

theorem outcome_next : machine.outcome.next = machine.consequence.next := by
  rw [outcome_eq]
  rfl

theorem escapes_iff : machine.Escapes ↔ ∃ fault, machine.fetched = .error fault ∧ ¬ fault.Worded := by
  simp only [Escapes, fetched]
  cases fetch machine.program machine.limit machine.status <;> simp [Except.map]

theorem records_of_text {text : Text} (executes : machine.fetched = .ok text) : machine.Records := by
  refine ⟨?_⟩
  rw [escapes_iff, executes]
  simp

theorem instruction_of_escapes (escapes : machine.Escapes) : machine.instruction = [] := by
  obtain ⟨fault, refused, _⟩ := escapes
  simp only [instruction, refused]

/-- The error that the next step reports. One that escapes is not reported. -/
def reported (machine : Machine) : List Event :=
  match machine.step.2 with
  | .error (.reported diagnostic) => [diagnostic.event]
  | _ => []

theorem mem_reported {event : Event} (member : event ∈ machine.reported) : ∃ line message, event = .error line message := by
  unfold reported at member
  split at member
  · exact ⟨_, _, List.mem_singleton.mp member⟩
  · cases member

/-- What the next step adds to the log. An error is the last thing that is reported. -/
def logged (machine : Machine) : List Event :=
  machine.consequence.events ++ machine.reported

theorem step_snd [machine.Records] :
    machine.step.2 = match machine.report? with
      | none => .ok machine.entry
      | some diagnostic => .error diagnostic :=
  congrArg Prod.snd (step_eq machine)

theorem reported_eq [machine.Records] : machine.reported = (machine.report?.map Diagnostic.event).toList := by
  rw [reported, step_snd]
  cases machine.report? <;> rfl

theorem consequence_of_escapes (escapes : machine.Escapes) :
    ∃ fault, machine.consequence = { memory := machine.workspace.memory, next := .error fault } := by
  obtain ⟨fault, refused, _⟩ := machine.escapes_iff.mp escapes
  simp only [consequence, refused]
  exact ⟨fault, rfl⟩

theorem step_workspace :
    machine.step.1.workspace =
      ⟨machine.consequence.memory,
        if machine.consequence.asked then machine.workspace.inputs.tail else machine.workspace.inputs,
        machine.workspace.observer, machine.workspace.output ++ machine.consequence.output,
        machine.workspace.events ++ machine.logged⟩ := by
  rcases machine.escapes_or_records with escapes | _
  · obtain ⟨fault, refused⟩ := machine.consequence_of_escapes escapes
    rw [logged, reported, step_of_escapes escapes, refused]
    simp [lapsed]
  · rw [logged, reported_eq, step_eq, outcome_eq]
    cases machine.report? with
    | none => simp [Consequence.outcome]
    | some diagnostic =>
      simp only [Consequence.outcome, Workspace.log, Workspace.mk.injEq, true_and]
      exact Array.ext' (by simp)

theorem step_fst [machine.Records] :
    machine.step.1 = ⟨machine.program, machine.limit, advance machine.status machine.consequence.next,
      machine.step.1.workspace, machine.trace.push machine.entry, ⟨machine.entry.output, true⟩⟩ := by
  rw [step_eq, outcome_next]

section Same

variable {first second : Machine} (status : second.status = first.status) (text : second.fetched = first.fetched)
  (same : second.consequence = first.consequence)

include text in
theorem escapes_of_same : second.Escapes ↔ first.Escapes := by
  rw [escapes_iff, escapes_iff, text]

include text in
theorem records_of_same [records : first.Records] : second.Records :=
  ⟨mt (escapes_of_same text).mp records.worded⟩

include status same

theorem report?_of_same : second.report? = first.report? := by
  simp only [report?, outcome_next, same, status]

include text

theorem entry_of_same : second.entry = first.entry := by
  simp only [entry, outcome_eq, Consequence.outcome, instruction_eq, same, status, text, report?_of_same status same]

theorem step_snd_of_same : second.step.2 = first.step.2 := by
  rcases first.escapes_or_records with escapes | _
  · rw [step_of_escapes escapes, step_of_escapes ((escapes_of_same text).mpr escapes)]
  · have := records_of_same text
    rw [step_snd, step_snd, report?_of_same status same, entry_of_same status text same]

theorem logged_of_same : second.logged = first.logged := by
  simp only [logged, reported, same, step_snd_of_same status text same]

/-- Two machines that stand at the same step differ after it in what they differed in before. -/
theorem step_fst_of_same (trace : second.trace = first.trace) :
    second.step.1 = { first.step.1 with
      program := second.program, limit := second.limit, workspace := second.step.1.workspace } := by
  rcases first.escapes_or_records with escapes | _
  · rw [step_of_escapes escapes, step_of_escapes ((escapes_of_same text).mpr escapes)]
    simp only [lapsed, status, trace]
  · have := records_of_same text
    rw [step_fst, step_fst first, same, status, trace, entry_of_same status text same]

end Same
end Machine
end RandomAccess
