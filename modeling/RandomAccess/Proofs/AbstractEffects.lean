import RandomAccess.Proofs.AbstractDecoding
import RandomAccess.Proofs.StepEffects

/-! What an instruction does to the data that a workspace stands for is what its command is meant to do to
the workspace. The operands resolve alike, and fail alike and in the same order. A command does what it is
meant to do, except that a subtracting jump looks its result up again to see where it leads. -/

namespace RandomAccess

theorem Memory.get?_write_eq_update (memory : Memory) (address value : Int) :
    (memory.write address value).get? = Function.update memory.get? address (some value) := by
  funext key
  rw [Memory.get?_write, Function.update_apply]

namespace Workspace

/-- What instructions see of a workspace. -/
def data (workspace : Workspace) : Abstract.Data :=
  ⟨workspace.memory.get?, workspace.inputs, workspace.output.toList⟩

/-- Where an outcome leads, and the data it leaves. -/
def Outcome.result (outcome : Outcome) : Except Fault Move × Abstract.Data :=
  (outcome.next, outcome.workspace.data)

/-- Where an effect leads that a workspace accepts, and the data it leaves. -/
def carried (workspace : Workspace) : Except Fault Effect → Except Fault Move × Abstract.Data
  | .ok effect => (effect.next,
      ⟨(effect.written workspace.memory).get?, workspace.inputs, workspace.output.toList ++ effect.output⟩)
  | .error fault => (.error fault, workspace.data)

section Carried

variable (workspace : Workspace)

theorem carried_store (address value : Int) : workspace.carried (.ok (.store address value)) =
    (.ok .advance, { workspace.data with store := Function.update workspace.data.store address (some value) }) := by
  simp [carried, Effect.store, Effect.written, Memory.get?_write_eq_update, data]

theorem carried_go (move : Move) : workspace.carried (.ok (.go move)) = (.ok move, workspace.data) := by
  simp [carried, Effect.go, Effect.written, data]

theorem carried_output (lines : List String) (move : Move) :
    workspace.carried (.ok { output := lines, next := .ok move }) =
      (.ok move, { workspace.data with output := workspace.data.output ++ lines }) := by
  simp [carried, Effect.written, data]

end Carried

theorem perform_result {workspace : Workspace} (accepts : workspace.observer.Accepting) (program : Program)
    (command : Command) (input : Input) :
    (workspace.perform program command input).result =
      workspace.carried (command.effect program workspace.memory input) := by
  unfold perform
  cases command.effect program workspace.memory input with
  | error fault => rfl
  | ok effect => simp [apply_accepted workspace accepts, Outcome.result, data, carried]

end Workspace

/-- The effect a command is meant to have: a subtracting jump goes by the difference itself. -/
def Command.intended (program : Program) (memory : Memory) (input : Input) : Command → Except Fault Effect
  | .subtractJump target other label => do
    let address ← target.address memory
    let value ← difference target other memory
    pure { write? := some (address, value), next := if value = 0 then program.jump label else .ok .advance }
  | command => command.effect program memory input

namespace Abstract
namespace Routine

variable {α β : Type} {data after : Data} {first : Routine α} {result : Except Fault α}

theorem bind_apply (next : α → Routine β) : first data = (result, after) →
    (first >>= next) data = match result with
      | .ok value => next value after
      | .error fault => (.error fault, after) := by
  intro done
  change ExceptT.bindCont next (first data).1 (first data).2 = _
  rw [done]
  cases result <;> rfl

@[simp]
theorem pure_apply (value : α) : (pure value : Routine α) data = (.ok value, data) := rfl

@[simp]
theorem get_bind (next : Data → Routine β) : (get >>= next) data = next data data := rfl

@[simp]
theorem assign_bind (address value : Int) (next : Unit → Routine β) :
    (assign address value >>= next) data =
      next () { data with store := Function.update data.store address (some value) } := rfl

@[simp]
theorem print_bind (line : String) (next : Unit → Routine β) :
    (print line >>= next) data = next () { data with output := data.output ++ [line] } := rfl

end Routine

open Routine

theorem Target.go_apply (program : Program) (label : Text) (data : Data) :
    (Target.ofLabel program.lines.toList label).go data = (program.jump label, data) := by
  unfold Target.ofLabel Program.jump
  rw [lastLabelled_eq]
  cases program.target? label <;> rfl

section Operands

variable (workspace : Workspace)

theorem fetch_looks (address : Int) :
    fetch address workspace.data = (workspace.memory.read address, workspace.data) := by
  unfold fetch Memory.read
  rw [get_bind]
  dsimp only [Workspace.data]
  cases workspace.memory.get? address <;> rfl

theorem natural_looks (address : Int) :
    natural address workspace.data = (Operand.checkAddress address, workspace.data) := by
  unfold natural Operand.checkAddress
  by_cases negative : address < 0
  · rw [if_neg (by omega), if_pos negative]
    rfl
  · rw [if_pos (by omega), if_neg negative]
    rfl

theorem value_looks (operand : Operand) : (Reference.ofOperand operand).value workspace.data =
    (operand.value workspace.memory, workspace.data) := by
  obtain ⟨token, mode, number?⟩ := operand
  cases number? with
  | none => rfl
  | some number =>
    cases mode with
    | direct => exact fetch_looks workspace number
    | immediate => rfl
    | indirect =>
      change (fetch number >>= fetch) workspace.data = _
      rw [bind_apply _ (fetch_looks workspace number)]
      change _ = (workspace.memory.read number >>= workspace.memory.read, workspace.data)
      cases workspace.memory.read number with
      | error fault => rfl
      | ok pointer => exact fetch_looks workspace pointer

theorem address_looks (operand : Operand) : (Reference.ofOperand operand).address workspace.data =
    (operand.address workspace.memory, workspace.data) := by
  obtain ⟨token, mode, number?⟩ := operand
  cases number? with
  | none => cases mode <;> rfl
  | some number =>
    cases mode with
    | direct => exact natural_looks workspace number
    | immediate => rfl
    | indirect =>
      change (fetch number >>= natural) workspace.data = _
      rw [bind_apply _ (fetch_looks workspace number)]
      change _ = (workspace.memory.read number >>= Operand.checkAddress, workspace.data)
      cases workspace.memory.read number with
      | error fault => rfl
      | ok pointer => exact natural_looks workspace pointer

theorem combine_looks (left right : Int) (operation : Arithmetic) :
    combine left right operation workspace.data = (operation.apply left right, workspace.data) := by
  cases operation with
  | add | sub | mult => rfl
  | div =>
    simp only [combine, Arithmetic.apply]
    split <;> rfl

theorem next_apply : next workspace.data = (workspace.ask.1.value, workspace.ask.2.data) := by
  obtain ⟨memory, inputs, observer, output, events⟩ := workspace
  unfold next
  rw [get_bind]
  cases inputs with
  | nil => rfl
  | cons input rest =>
    change (MonadExcept.ofExcept input.value : Routine Int) _ = (input.value, _)
    cases input.value <;> rfl

/-- An action that leaves the data of a workspace goes on as an effect does with what was found. -/
theorem bind_carried {α : Type} {data : Data} {first : Routine α} {next : α → Routine Move} {result : Except Fault α}
    {effect : α → Except Fault Effect} (done : first data = (result, workspace.data))
    (rest : ∀ value, next value workspace.data = workspace.carried (effect value)) :
    (first >>= next) data = workspace.carried (result >>= effect) := by
  rw [bind_apply next done]
  cases result with
  | error fault => rfl
  | ok value => exact rest value

theorem go_carried (program : Program) (label : Text) :
    (Target.ofLabel program.lines.toList label).go workspace.data =
      workspace.carried (program.jump label >>= fun move => pure (.go move)) := by
  rw [Target.go_apply]
  cases program.jump label with
  | error fault => rfl
  | ok move => exact (workspace.carried_go move).symm

theorem subtract_carried (program : Program) (label : Text) (address difference : Int) :
    (assign address difference >>= fun _ =>
      if difference = 0 then (Target.ofLabel program.lines.toList label).go else pure .advance) workspace.data =
      workspace.carried (.ok { write? := some (address, difference),
                               next := if difference = 0 then program.jump label else .ok .advance }) := by
  rw [assign_bind]
  simp only [Workspace.carried, Effect.written, Memory.get?_write_eq_update, List.append_nil]
  split
  · rw [Target.go_apply]
    rfl
  · rfl

end Operands

/-- An instruction does what its command is meant to do. -/
theorem Instruction.execute_eq (workspace : Workspace) (program : Program) (command : Command) :
    (ofCommand program.lines.toList command).execute workspace.data =
      (workspace.taken command).carried (command.intended program workspace.memory (workspace.answer command)) := by
  cases command with
  | skip => exact (workspace.carried_go .advance).symm
  | load source =>
    apply bind_carried workspace (value_looks workspace source)
    intro value
    exact (workspace.carried_store 0 value).symm
  | store target =>
    apply bind_carried workspace (address_looks workspace target)
    intro address
    apply bind_carried workspace (fetch_looks workspace 0)
    intro value
    exact (workspace.carried_store address value).symm
  | arithmetic operation operand =>
    apply bind_carried workspace (fetch_looks workspace 0)
    intro left
    apply bind_carried workspace (value_looks workspace operand)
    intro right
    apply bind_carried workspace (combine_looks workspace left right operation)
    intro value
    exact (workspace.carried_store 0 value).symm
  | jump label => exact go_carried workspace program label
  | jumpIf condition label =>
    apply bind_carried workspace (fetch_looks workspace 0)
    intro value
    have same : meets value condition = condition.holds value := by
      cases condition <;> rfl
    rw [same]
    split
    · exact go_carried workspace program label
    · exact (workspace.carried_go .advance).symm
  | subtractJump target other label =>
    simp only [ofCommand, Command.intended, Command.difference]
    split
    next same =>
      apply bind_carried workspace (address_looks workspace target)
      intro address
      exact subtract_carried workspace program label address 0
    next different =>
      simp only [execute, bind_assoc, pure_bind]
      apply bind_carried workspace (address_looks workspace target)
      intro address
      apply bind_carried workspace (value_looks workspace target)
      intro left
      apply bind_carried workspace (value_looks workspace other)
      intro right
      exact subtract_carried workspace program label address (left - right)
  | read target =>
    apply bind_carried workspace.ask.2 (next_apply workspace)
    intro value
    apply bind_carried workspace.ask.2 (address_looks workspace.ask.2 target)
    intro address
    exact (workspace.ask.2.carried_store address value).symm
  | write source =>
    simp only [ofCommand, execute, Command.intended, Command.effect]
    apply bind_carried workspace (value_looks workspace source)
    intro value
    cases Numeral.text? value with
    | none => rfl
    | some text => exact (workspace.carried_output [String.ofList text] .advance).symm
  | halt =>
    refine .trans ?_ (workspace.carried_output Command.haltMessages .halt).symm
    simp only [ofCommand, execute, print_bind, pure_apply, List.append_assoc]
    rfl

end Abstract
end RandomAccess
