import RandomAccess.Proofs.InputUse

/-! What a step sets out to do. Its line is fetched, decoded and worked out to an effect, or to a fault, before the
observer has any say; only then is the effect carried out. So the observer decides nothing but whether a write that
has been made is accepted, and what is logged of it. -/

namespace RandomAccess

namespace Consequence

/-- What comes of an effect that is carried out, or of a fault in its place. -/
def ofAttempt (attempt : Except Fault Effect) (observer : Observer) (memory : Memory) : Consequence :=
  match attempt with
  | .ok effect => effect.consequence observer memory
  | .error fault => { memory, next := .error fault }

/-- The same after an input has been asked for, if one has. -/
def asking (consequence : Consequence) (asked : Bool) : Consequence :=
  if asked then consequence.afterAsking else consequence

section Asking

variable (consequence : Consequence) (asked : Bool)

@[simp]
theorem asking_memory : (consequence.asking asked).memory = consequence.memory := by
  cases asked <;> rfl

@[simp]
theorem asking_output : (consequence.asking asked).output = consequence.output := by
  cases asked <;> rfl

@[simp]
theorem asking_next : (consequence.asking asked).next = consequence.next := by
  cases asked <;> rfl

@[simp]
theorem asking_events :
    (consequence.asking asked).events = (if asked then [Event.input] else []) ++ consequence.events := by
  cases asked <;> rfl

end Asking
end Consequence

namespace Command

variable (program : Program) (memory : Memory) (observer : Observer) (input : Input) (command : Command)

theorem consequence_asked : (command.consequence program memory observer input).asked = command.asks := by
  simp only [consequence]
  cases command.asks with
  | true => rfl
  | false => exact performed_asked

theorem consequence_eq :
    command.consequence program memory observer input =
      (Consequence.ofAttempt (command.effect program memory (if command.asks then input else .cancel)) observer memory).asking
        command.asks := by
  simp only [consequence]
  cases command.asks <;> rfl

end Command

namespace Statement

/-- The effect of a statement with the next input at hand, or why it has none. -/
def attempt (program : Program) (memory : Memory) (input : Input) (statement : Statement) : Except Fault Effect := do
  let command ← InstructionSet.standard.decode statement
  command.effect program memory (if command.asks then input else .cancel)

theorem attempt_eq_ok_iff {program : Program} {memory : Memory} {input : Input} {statement : Statement} {effect : Effect} :
    statement.attempt program memory input = .ok effect ↔
      ∃ command, InstructionSet.standard.decode statement = .ok command ∧
        command.effect program memory (if command.asks then input else .cancel) = .ok effect :=
  bind_eq_ok

theorem consequence_eq (program : Program) (memory : Memory) (observer : Observer) (input : Input) (statement : Statement) :
    statement.consequence program memory observer input =
      (Consequence.ofAttempt (statement.attempt program memory input) observer memory).asking statement.reads := by
  have asked := consequence_asked program memory observer input statement
  simp only [consequence] at asked ⊢
  cases decoded : InstructionSet.standard.decode statement with
  | error fault =>
    simp only [decoded] at asked
    have attempted : statement.attempt program memory input = .error fault := bind_eq_error.mpr (.inl decoded)
    rw [attempted, ← asked]
    rfl
  | ok command =>
    simp only [decoded, Command.consequence_asked] at asked
    have attempted : statement.attempt program memory input =
        command.effect program memory (if command.asks then input else .cancel) := by
      rw [attempt, decoded]
      rfl
    rw [attempted, ← asked]
    exact command.consequence_eq program memory observer input

end Statement

namespace Machine

/-- The effect that the next step is to have, or why it has none. -/
def attempt (machine : Machine) : Except Fault Effect := do
  let text ← machine.fetched
  (Statement.ofText text).attempt machine.program machine.memory (machine.workspace.inputs.headD .cancel)

theorem consequence_eq (machine : Machine) :
    machine.consequence =
      (Consequence.ofAttempt machine.attempt machine.workspace.observer machine.memory).asking machine.entry.reads := by
  simp only [consequence, attempt, Entry.reads, entry, instruction_eq]
  cases machine.fetched with
  | error fault => rfl
  | ok text => exact Statement.consequence_eq ..

theorem memory_step (machine : Machine) :
    machine.step.1.memory =
      (Consequence.ofAttempt machine.attempt machine.workspace.observer machine.memory).memory := by
  rw [memory, step_workspace, consequence_eq, Consequence.asking_memory]

/-- Apart from the request for an input and the report of an error, a step logs what comes of its attempt. -/
theorem filterMap_logged (machine : Machine) {α : Type} {f : Event → Option α} (input : f .input = none)
    (error : ∀ line message, f (.error line message) = none) :
    machine.logged.filterMap f =
      (Consequence.ofAttempt machine.attempt machine.workspace.observer machine.memory).events.filterMap f := by
  have asked : (if machine.entry.reads then [Event.input] else []).filterMap f = [] := by
    split
    · simp [input]
    · rfl
  have reported : machine.reported.filterMap f = [] := by
    apply List.filterMap_eq_nil_iff.mpr
    intro event member
    obtain ⟨line, message, rfl⟩ := machine.mem_reported member
    exact error line message
  rw [logged, consequence_eq, Consequence.asking_events, List.filterMap_append, List.filterMap_append, asked, reported]
  simp

theorem attempt_eq_ok {machine : Machine} {effect : Effect} (attempted : machine.attempt = .ok effect) :
    (Statement.ofText machine.instruction).attempt machine.program machine.memory
      (machine.workspace.inputs.headD .cancel) = .ok effect := by
  obtain ⟨text, fetched, worked⟩ := bind_eq_ok.mp attempted
  rw [instruction_eq, fetched]
  exact worked

end Machine
end RandomAccess
