import RandomAccess.Proofs.NumeralValues
import RandomAccess.Proofs.StepFrame

/-! Where the fault of a step comes from. A step is refused before it begins, or its line is no instruction,
or its command fails: by itself, at an operand or at the memory. Besides these only a collaborator can fail,
an input that is refused or an observer that refuses. -/

namespace RandomAccess

/-- The part of the machine that finds a fault. -/
inductive Fault.Origin where
  | precondition
  | dispatch
  | handler
  | resolver
  | memory
  | collaborator
  deriving DecidableEq, Repr

/-- A number that a token can spell, or that some cell holds. -/
def Memory.Knows (memory : Memory) (number : Int) : Prop :=
  Numeral.Representable number ∨ ∃ address, memory.get? address = some number

theorem Operand.ofToken_representable {token : Text} {number : Int} (known : (ofToken token).number? = some number) :
    Numeral.Representable number := by
  unfold ofToken at known
  split at known
  all_goals exact Numeral.parse?_representable known

namespace Command

/-- The faults of a command with the part that finds them, for the memory that the command leaves behind. -/
inductive Fails (input : Input) (memory : Memory) : Fault.Origin → Fault → Prop where
  | divisionByZero : Fails input memory .handler .divisionByZero
  | labelNotFound (label : Text) : Fails input memory .handler (.labelNotFound label)
  | tooLargeToWrite : Fails input memory .handler .tooLargeToWrite
  | inputCancelled : Fails input memory .handler .inputCancelled
  | invalidInput : Fails input memory .handler .invalidInput
  | invalidOperand (token : Text) : Fails input memory .resolver (.invalidOperand token)
  | invalidAddress : Fails input memory .resolver .invalidAddress
  | memoryUndefined {address : Int} (known : memory.Knows address) :
      Fails input memory .memory (.memoryUndefined address)
  | refused {reason : String} (refuses : input = .refuse reason) : Fails input memory .collaborator (.outOfRange reason)

variable {input : Input} {memory : Memory} {operand : Operand} {fault : Fault}

theorem fails_of_number (failed : operand.number = .error fault) : ∃ origin, Fails input memory origin fault := by
  obtain ⟨_, rfl⟩ := Operand.number_eq_error_iff.mp failed
  exact ⟨_, .invalidOperand operand.token⟩

theorem fails_of_read {address : Int} (known : memory.Knows address) (failed : memory.read address = .error fault) :
    ∃ origin, Fails input memory origin fault := by
  obtain ⟨_, rfl⟩ := Memory.read_eq_error_iff.mp failed
  exact ⟨_, .memoryUndefined known⟩

theorem fails_of_accumulator (failed : memory.read Memory.accumulator = .error fault) :
    ∃ origin, Fails input memory origin fault := by
  have zero : (Operand.ofToken "0".toList).number? = some Memory.accumulator := rfl
  exact fails_of_read (.inl (Operand.ofToken_representable zero)) failed

theorem knows_number (formed : operand = .ofToken operand.token) {number : Int} (parsed : operand.number = .ok number) :
    memory.Knows number := by
  rw [formed] at parsed
  exact .inl (Operand.ofToken_representable (Operand.number_eq_ok_iff.mp parsed))

theorem fails_of_value (formed : operand = .ofToken operand.token) (failed : operand.value memory = .error fault) :
    ∃ origin, Fails input memory origin fault := by
  simp only [Operand.value, bind_eq_error] at failed
  rcases failed with failed | ⟨number, parsed, failed⟩
  · exact fails_of_number failed
  · cases mode : operand.mode <;> simp only [mode, bind_eq_error] at failed
    case direct => exact fails_of_read (knows_number formed parsed) failed
    case indirect =>
      rcases failed with failed | ⟨address, held, failed⟩
      · exact fails_of_read (knows_number formed parsed) failed
      · exact fails_of_read (.inr ⟨number, Memory.read_eq_ok_iff.mp held⟩) failed
    case immediate => cases failed

theorem fails_of_address (formed : operand = .ofToken operand.token) (failed : operand.address memory = .error fault) :
    ∃ origin, Fails input memory origin fault := by
  unfold Operand.address at failed
  cases mode : operand.mode <;> simp only [mode, bind_eq_error] at failed
  case direct =>
    rcases failed with failed | ⟨_, _, failed⟩
    · exact fails_of_number failed
    · obtain rfl := Operand.checkAddress_eq_error failed
      exact ⟨_, .invalidAddress⟩
  case indirect =>
    rcases failed with failed | ⟨number, parsed, failed | ⟨_, _, failed⟩⟩
    · exact fails_of_number failed
    · exact fails_of_read (knows_number formed parsed) failed
    · obtain rfl := Operand.checkAddress_eq_error failed
      exact ⟨_, .invalidAddress⟩
  case immediate =>
    cases failed
    exact ⟨_, .invalidAddress⟩

theorem fails_of_jump {program : Program} {label : Text} (failed : program.jump label = .error fault) :
    ∃ origin, Fails input memory origin fault := by
  unfold Program.jump at failed
  split at failed <;> cases failed
  exact ⟨_, .labelNotFound label⟩

theorem fails_of_apply {operation : Arithmetic} {left right : Int} (failed : operation.apply left right = .error fault) :
    ∃ origin, Fails input memory origin fault := by
  cases operation <;> simp only [Arithmetic.apply] at failed
  case div =>
    split at failed <;> cases failed
    exact ⟨_, .divisionByZero⟩
  all_goals cases failed

theorem fails_of_input (failed : input.value = .error fault) : ∃ origin, Fails input memory origin fault := by
  cases input <;> simp only [Input.value] at failed
  case text given =>
    split at failed <;> cases failed
    exact ⟨_, .invalidInput⟩
  case number => cases failed
  case cancel =>
    cases failed
    exact ⟨_, .inputCancelled⟩
  case refuse reason =>
    cases failed
    exact ⟨_, .refused rfl⟩

theorem fails_of_difference {target other : Operand} (targetFormed : target = .ofToken target.token)
    (otherFormed : other = .ofToken other.token) (failed : difference target other memory = .error fault) :
    ∃ origin, Fails input memory origin fault := by
  unfold difference at failed
  split at failed
  · cases failed
  · simp only [bind_eq_error] at failed
    rcases failed with failed | ⟨_, _, failed | ⟨_, _, failed⟩⟩
    · exact fails_of_value targetFormed failed
    · exact fails_of_value otherFormed failed
    · cases failed

/-- The address that a subtracting jump looks at again is one that its target names in the memory it left. -/
theorem fails_of_jumpAtZero {program : Program} {target : Operand} {label : Text}
    (formed : target = .ofToken target.token) (failed : jumpAtZero program memory target label = .error fault) :
    ∃ origin, Fails input memory origin fault := by
  simp only [jumpAtZero, bind_eq_error] at failed
  rcases failed with failed | ⟨address, resolved, failed | ⟨_, _, failed⟩⟩
  · exact fails_of_address formed failed
  · have names := (Operand.address_eq_ok_iff.mp resolved).2
    have same := names.value_eq
    rw [failed] at same
    exact fails_of_value formed same
  · split at failed
    · exact fails_of_jump failed
    · cases failed

theorem effect_error {command : Command} {program : Program} (formed : command.Formed)
    (failed : command.effect program memory input = .error fault) : ∃ origin, Fails input memory origin fault := by
  cases command <;> simp only [Command.effect, bind_eq_error] at failed
  case skip => cases failed
  case load source =>
    rcases failed with failed | ⟨_, _, failed⟩
    · exact fails_of_value formed failed
    · cases failed
  case store target =>
    rcases failed with failed | ⟨_, _, failed | ⟨_, _, failed⟩⟩
    · exact fails_of_address formed failed
    · exact fails_of_accumulator failed
    · cases failed
  case arithmetic operation operand =>
    rcases failed with failed | ⟨_, _, failed | ⟨_, _, failed | ⟨_, _, failed⟩⟩⟩
    · exact fails_of_accumulator failed
    · exact fails_of_value formed failed
    · exact fails_of_apply failed
    · cases failed
  case jump label =>
    rcases failed with failed | ⟨_, _, failed⟩
    · exact fails_of_jump failed
    · cases failed
  case jumpIf condition label =>
    rcases failed with failed | ⟨_, _, failed⟩
    · exact fails_of_accumulator failed
    · split at failed
      · rcases bind_eq_error.mp failed with failed | ⟨_, _, failed⟩
        · exact fails_of_jump failed
        · cases failed
      · cases failed
  case subtractJump target other label =>
    rcases failed with failed | ⟨_, _, failed | ⟨_, _, failed⟩⟩
    · exact fails_of_address formed.1 failed
    · exact fails_of_difference formed.1 formed.2 failed
    · cases failed
  case read target =>
    rcases failed with failed | ⟨_, _, failed | ⟨_, _, failed⟩⟩
    · exact fails_of_input failed
    · exact fails_of_address formed failed
    · cases failed
  case write source =>
    rcases failed with failed | ⟨_, _, failed⟩
    · exact fails_of_value formed failed
    · split at failed <;> cases failed
      exact ⟨_, .tooLargeToWrite⟩
  case halt => cases failed

end Command

namespace InstructionSet

theorem decode_eq_error {statement : Statement} {fault : Fault} (undecoded : standard.decode statement = .error fault) :
    fault = .unknownCommand statement.keyword ∨
      ∃ instruction, standard.get? statement.keyword = some instruction ∧ fault = .usage instruction.usage := by
  unfold decode at undecoded
  split at undecoded
  · cases undecoded
  · split at undecoded
    next instruction found =>
      refine .inr ⟨instruction, found, ?_⟩
      simp only [Instruction.command] at undecoded
      split at undecoded
      · split at undecoded <;> cases undecoded
        rfl
      · cases undecoded
        rfl
    next =>
      cases undecoded
      exact .inl rfl

theorem decode_formed {statement : Statement} {command : Command} (decoded : standard.decode statement = .ok command) :
    command.Formed := by
  rcases decode_eq_ok decoded with ⟨_, rfl⟩ | ⟨_, formed, _⟩
  · trivial
  · exact formed

end InstructionSet

theorem Observer.look_eq_error {observer : Observer} {memory : Memory} {fault : Fault}
    (refused : observer.look memory = .error fault) : ¬ observer.Accepting ∧ ∃ reason, fault = .outOfRange reason := by
  refine ⟨?_, ?_⟩
  · intro accepts
    obtain ⟨seen, looked⟩ := accepts memory
    rw [looked] at refused
    cases refused
  · unfold look at refused
    split at refused <;> cases refused
    exact ⟨_, rfl⟩

namespace Workspace

variable {workspace : Workspace} {program : Program} {fault : Fault}

theorem write_eq_error {address value : Int} (failed : (workspace.write address value).2 = .error fault) :
    workspace.observer.look (workspace.memory.write address value) = .error fault := by
  simp only [write] at failed
  split at failed
  · cases failed
  · cases failed
  next refused =>
    cases failed
    exact refused

theorem apply_error {effect : Effect} (failed : (workspace.apply effect).next = .error fault) :
    (∃ memory, workspace.observer.look memory = .error fault) ∨ effect.next = .error fault := by
  unfold apply at failed
  split at failed
  · exact .inr failed
  · split at failed
    · exact .inr failed
    next refused =>
      cases failed
      exact .inl ⟨_, write_eq_error (congrArg Prod.snd refused)⟩

theorem answer_given (command : Command) :
    workspace.answer command ∈ workspace.inputs ∨ workspace.answer command = .cancel := by
  unfold answer
  split
  · cases given : workspace.inputs with
    | nil => exact .inr (by simp [ask, given])
    | cons input rest => exact .inl (by simp [ask, given])
  · exact .inr rfl

/-- A command that was decoded fails by itself, with its write done if it has come to that, or at the observer. -/
theorem perform_error {command : Command} {input : Input} (formed : command.Formed)
    (failed : (workspace.perform program command input).next = .error fault) :
    (∃ memory, workspace.observer.look memory = .error fault) ∨
      ∃ origin, Command.Fails input (workspace.perform program command input).workspace.memory origin fault := by
  unfold perform at failed ⊢
  split at failed
  next effect done =>
    rcases apply_error failed with refused | late
    · exact .inl refused
    · obtain ⟨target, other, label, address, value, rfl, _, _, rfl⟩ := Command.effect_fails_late done late
      rw [apply_memory]
      apply Or.inr
      exact Command.fails_of_jumpAtZero formed.1 late
  next early =>
    cases failed
    exact .inr (Command.effect_error formed early)

end Workspace

namespace Machine

/-- How the next step of a machine comes to a fault. -/
inductive Arises (machine : Machine) : Fault.Origin → Fault → Prop where
  | halted (halted : machine.status.halted = true) : Arises machine .precondition .alreadyHalted
  | failed (errored : machine.status.errored = true) : Arises machine .precondition .alreadyFailed
  | limited {most : Int} (limit : machine.limit = some most) (reached : most ≤ machine.status.stepCount) :
      Arises machine .precondition (.stepLimit most)
  | ended (past : machine.program.line? machine.status.pc = none) : Arises machine .precondition .endOfProgram
  | unknown (keyword : Text) : Arises machine .dispatch (.unknownCommand keyword)
  | misused (usage : String) : Arises machine .dispatch (.usage usage)
  | command {input : Input} {origin : Fault.Origin} {fault : Fault}
      (given : input ∈ machine.workspace.inputs ∨ input = .cancel)
      (fails : Command.Fails input machine.outcome.workspace.memory origin fault) : Arises machine origin fault
  | observed {reason : String} (refuses : ¬ machine.workspace.observer.Accepting) :
      Arises machine .collaborator (.outOfRange reason)

theorem arises_of_refused {machine : Machine} {fault : Fault}
    (refused : fetch machine.program machine.limit machine.status = .error fault) :
    machine.Arises .precondition fault := by
  rcases fetch_eq_error refused with ⟨rfl, halted⟩ | ⟨rfl, errored⟩ | ⟨most, rfl, limit, reached⟩ | ⟨rfl, past⟩
  · exact .halted halted
  · exact .failed errored
  · exact .limited limit reached
  · exact .ended past

theorem arises_of_fails {machine : Machine} {fault : Fault} (failed : machine.outcome.next = .error fault) :
    ∃ origin, machine.Arises origin fault := by
  cases fetched : fetch machine.program machine.limit machine.status with
  | error refusal =>
    rw [outcome_of_refused fetched] at failed
    cases failed
    exact ⟨_, arises_of_refused fetched⟩
  | ok line =>
    have executed : machine.outcome =
        machine.workspace.execute .standard machine.program (Statement.ofText line.text) := by
      simp only [outcome, fetched]
    cases decoded : InstructionSet.standard.decode (Statement.ofText line.text) with
    | error undecoded =>
      rw [executed, Workspace.execute_of_undecoded _ decoded] at failed
      cases failed
      rcases InstructionSet.decode_eq_error decoded with rfl | ⟨instruction, _, rfl⟩
      · exact ⟨_, .unknown _⟩
      · exact ⟨_, .misused _⟩
    | ok command =>
      rw [Workspace.execute_of_decoded _ decoded] at executed
      rw [executed] at failed
      rcases Workspace.perform_error (InstructionSet.decode_formed decoded) failed with ⟨memory, refused⟩ | ⟨origin, fails⟩
      · obtain ⟨refuses, reason, rfl⟩ := Observer.look_eq_error refused
        rw [Workspace.taken_observer] at refuses
        exact ⟨_, .observed refuses⟩
      · rw [← executed] at fails
        exact ⟨origin, .command (Workspace.answer_given command) fails⟩

end Machine
end RandomAccess
