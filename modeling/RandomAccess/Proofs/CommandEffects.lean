import RandomAccess.Proofs.NumeralValues
import RandomAccess.Proofs.OperandCells
import RandomAccess.Workspace

/-! What a command does to a workspace, said once. A command of the standard set is written as one
statement only. It takes an input only if it reads one, it writes to natural addresses only, it goes to the
next line or to the line of a label, it fails after its write only if it is a subtracting jump, and it halts
only if it is the halt. -/

namespace RandomAccess

/-- The keyword of a standard operation. A skipped line has none. -/
def Operation.keyword : Operation → Text
  | .skip => []
  | .load => "LOAD".toList
  | .store => "STORE".toList
  | .arithmetic .add => "ADD".toList
  | .arithmetic .sub => "SUB".toList
  | .arithmetic .mult => "MULT".toList
  | .arithmetic .div => "DIV".toList
  | .jump => "JUMP".toList
  | .jumpIf .zero => "JZERO".toList
  | .jumpIf .positive => "JGTZ".toList
  | .subtractJump => "SJ".toList
  | .read => "READ".toList
  | .write => "WRITE".toList
  | .halt => "HALT".toList

namespace Command

def operation : Command → Operation
  | .skip => .skip
  | .load _ => .load
  | .store _ => .store
  | .arithmetic operation _ => .arithmetic operation
  | .jump _ => .jump
  | .jumpIf condition _ => .jumpIf condition
  | .subtractJump _ _ _ => .subtractJump
  | .read _ => .read
  | .write _ => .write
  | .halt => .halt

def tokens : Command → List Text
  | .load operand | .store operand | .arithmetic _ operand | .read operand | .write operand => [operand.token]
  | .jump label | .jumpIf _ label => [label]
  | .subtractJump target other label => [target.token, other.token, label]
  | .skip | .halt => []

/-- Every operand is what its own token says. -/
def Formed : Command → Prop
  | .load operand | .store operand | .arithmetic _ operand | .read operand | .write operand =>
    operand = .ofToken operand.token
  | .subtractJump target other _ => target = .ofToken target.token ∧ other = .ofToken other.token
  | _ => True

/-- The one way to write a command. -/
def statement (command : Command) : Statement :=
  ⟨command.operation.keyword, command.tokens⟩

end Command

theorem Operation.command?_eq_some {operation : Operation} {operands : List Text} {command : Command}
    (effective : operation ≠ .skip) (made : operation.command? operands = some command) :
    command.operation = operation ∧ command.tokens = operands ∧ command.Formed := by
  unfold Operation.command? at made
  split at made
  · exact absurd rfl effective
  case h_11 => cases made
  all_goals
    cases made
    simp [Command.operation, Command.tokens, Command.Formed]

namespace InstructionSet

private theorem standard_keyword :
    ∀ instruction ∈ standard.instructions,
      instruction.keyword = instruction.operation.keyword ∧ instruction.operation ≠ .skip := by
  decide

/-- A statement stands only for the command that is written so. Whatever has no keyword is skipped. -/
theorem decode_eq_ok {statement : Statement} {command : Command}
    (decoded : standard.decode statement = .ok command) :
    statement.keyword = [] ∧ command = .skip ∨
      command.statement = statement ∧ command.Formed ∧ command ≠ .skip := by
  unfold decode at decoded
  split at decoded
  next blank =>
    cases decoded
    exact .inl ⟨List.isEmpty_iff.mp blank, rfl⟩
  next =>
    cases found : standard.get? statement.keyword with
    | none => simp [found] at decoded
    | some instruction =>
      have member : instruction ∈ standard.instructions := List.mem_of_find?_eq_some found
      have keyword : instruction.keyword = statement.keyword := by simpa using List.find?_some found
      simp only [found, Instruction.command] at decoded
      split at decoded
      · cases made : instruction.operation.command? statement.operands with
        | none => simp [made] at decoded
        | some result =>
          simp only [made] at decoded
          cases decoded
          obtain ⟨spelled, effective⟩ := standard_keyword instruction member
          obtain ⟨operation, tokens, formed⟩ := Operation.command?_eq_some effective made
          refine .inr ⟨?_, formed, ?_⟩
          · rw [Command.statement, operation, tokens, ← spelled, keyword]
          · rintro rfl
            exact effective operation.symm
      · cases decoded

theorem decode_asks {statement : Statement} {command : Command}
    (decoded : standard.decode statement = .ok command) (asks : command.asks = true) :
    ∃ target, statement = ⟨"READ".toList, [target]⟩ := by
  rcases decode_eq_ok decoded with ⟨_, rfl⟩ | ⟨written, _⟩
  · cases asks
  · cases command with
    | read target => exact ⟨target.token, written.symm⟩
    | _ => cases asks

end InstructionSet

/-- The moves of a command that does not halt. -/
inductive Program.Goes (program : Program) : Move → Prop where
  | advance : program.Goes .advance
  | jump {label : Text} {index : Nat} (known : program.target? label = some index) : program.Goes (.jump index)

theorem Program.jump_eq_ok {program : Program} {label : Text} {move : Move}
    (found : program.jump label = .ok move) : program.Goes move := by
  unfold Program.jump at found
  split at found
  next index known =>
    cases found
    exact .jump known
  next => cases found

theorem Program.Goes.ne_halt {program : Program} {move : Move} (goes : program.Goes move) : move ≠ .halt := by
  cases goes <;> simp

namespace Command

variable {program : Program} {memory : Memory} {input : Input}

theorem jumpAtZero_eq_ok {target : Operand} {label : Text} {move : Move}
    (found : jumpAtZero program memory target label = .ok move) : program.Goes move := by
  simp only [jumpAtZero, bind_eq_ok] at found
  obtain ⟨_, _, value, _, found⟩ := found
  split at found
  · exact Program.jump_eq_ok found
  · cases found
    exact .advance

theorem accumulator_natural : 0 ≤ Memory.accumulator := by decide

/-- The shapes an effect comes in: a cell is stored, the program counter moves, a number is put out, the
run halts, or a subtracting jump stores its difference and looks where to go. -/
theorem effect_cases {command : Command} {effect : Effect} (done : command.effect program memory input = .ok effect) :
    (∃ address value, 0 ≤ address ∧ effect = .store address value) ∨
    (∃ move, program.Goes move ∧ effect = .go move) ∨
    (∃ source value, command = .write source ∧ source.value memory = .ok value ∧ Numeral.Representable value ∧
      effect = { output := [String.ofList (Numeral.write value)] }) ∨
    (command = .halt ∧ effect = { output := haltMessages, next := .ok .halt }) ∨
    ∃ target other label address value, command = .subtractJump target other label ∧
      target.address memory = .ok address ∧ difference target other memory = .ok value ∧
      effect = { write? := some (address, value), next := jumpAtZero program (memory.write address value) target label } := by
  cases command <;> simp only [Command.effect, bind_eq_ok] at done
  case skip =>
    cases done
    exact .inr (.inl ⟨.advance, .advance, rfl⟩)
  case load source =>
    obtain ⟨value, _, same⟩ := done
    cases same
    exact .inl ⟨_, value, accumulator_natural, rfl⟩
  case store target =>
    obtain ⟨address, resolved, value, _, same⟩ := done
    cases same
    exact .inl ⟨address, value, (Operand.address_eq_ok_iff.mp resolved).1, rfl⟩
  case arithmetic operation operand =>
    obtain ⟨_, _, _, _, result, _, same⟩ := done
    cases same
    exact .inl ⟨_, result, accumulator_natural, rfl⟩
  case jump label =>
    obtain ⟨move, found, same⟩ := done
    cases same
    exact .inr (.inl ⟨move, Program.jump_eq_ok found, rfl⟩)
  case jumpIf condition label =>
    obtain ⟨_, _, same⟩ := done
    split at same
    · obtain ⟨move, found, same⟩ := bind_eq_ok.mp same
      cases same
      exact .inr (.inl ⟨move, Program.jump_eq_ok found, rfl⟩)
    · cases same
      exact .inr (.inl ⟨.advance, .advance, rfl⟩)
  case subtractJump target other label =>
    obtain ⟨address, resolved, value, subtracted, same⟩ := done
    cases same
    exact .inr (.inr (.inr (.inr ⟨target, other, label, address, value, rfl, resolved, subtracted, rfl⟩)))
  case read target =>
    obtain ⟨value, _, address, resolved, same⟩ := done
    cases same
    exact .inl ⟨address, value, (Operand.address_eq_ok_iff.mp resolved).1, rfl⟩
  case write source =>
    obtain ⟨value, held, same⟩ := done
    split at same <;> cases same
    next text written =>
      obtain ⟨short, rfl⟩ := Numeral.text?_eq_some_iff.mp written
      exact .inr (.inr (.inl ⟨source, value, rfl, held, short, rfl⟩))
  case halt =>
    cases done
    exact .inr (.inr (.inr (.inl ⟨rfl, rfl⟩)))

/-- Whatever a command writes, it writes to a natural address. -/
theorem effect_natural {command : Command} {effect : Effect} {address value : Int}
    (done : command.effect program memory input = .ok effect) (writes : effect.write? = some (address, value)) :
    0 ≤ address := by
  rcases effect_cases done with ⟨_, _, natural, rfl⟩ | ⟨_, _, rfl⟩ | ⟨_, _, _, _, _, rfl⟩ | ⟨_, rfl⟩ |
    ⟨_, _, _, _, _, _, resolved, _, rfl⟩
  · cases writes
    exact natural
  · cases writes
  · cases writes
  · cases writes
  · cases writes
    exact (Operand.address_eq_ok_iff.mp resolved).1

/-- Whatever a command puts out, apart from the words at the halt, is a number that can be written. -/
theorem effect_output {command : Command} {effect : Effect} {line : String}
    (done : command.effect program memory input = .ok effect) (member : line ∈ effect.output) :
    line ∈ haltMessages ∨ ∃ value, Numeral.Representable value ∧ line = String.ofList (Numeral.write value) := by
  rcases effect_cases done with ⟨_, _, _, rfl⟩ | ⟨_, _, rfl⟩ | ⟨_, value, _, _, short, rfl⟩ | ⟨_, rfl⟩ |
    ⟨_, _, _, _, _, _, _, _, rfl⟩
  · cases member
  · cases member
  · exact .inr ⟨value, short, List.mem_singleton.mp member⟩
  · exact .inl member
  · cases member

theorem effect_goes {command : Command} {effect : Effect} {move : Move}
    (done : command.effect program memory input = .ok effect) (moves : effect.next = .ok move) :
    command = .halt ∧ move = .halt ∨ program.Goes move := by
  rcases effect_cases done with ⟨_, _, _, rfl⟩ | ⟨_, goes, rfl⟩ | ⟨_, _, _, _, _, rfl⟩ | ⟨same, rfl⟩ |
    ⟨_, _, _, _, _, _, _, _, rfl⟩
  · cases moves
    exact .inr .advance
  · cases moves
    exact .inr goes
  · cases moves
    exact .inr .advance
  · cases moves
    exact .inl ⟨same, rfl⟩
  · exact .inr (jumpAtZero_eq_ok moves)

/-- Only the subtracting jump can fail once its effect is known: by then its operands are resolved and
its difference is stored. -/
theorem effect_fails_late {command : Command} {effect : Effect} {fault : Fault}
    (done : command.effect program memory input = .ok effect) (failed : effect.next = .error fault) :
    ∃ target other label address value, command = .subtractJump target other label ∧
      target.address memory = .ok address ∧ difference target other memory = .ok value ∧
      effect = { write? := some (address, value), next := jumpAtZero program (memory.write address value) target label } := by
  rcases effect_cases done with ⟨_, _, _, rfl⟩ | ⟨_, _, rfl⟩ | ⟨_, _, _, _, _, rfl⟩ | ⟨_, rfl⟩ |
    ⟨target, other, label, address, value, same, resolved, subtracted, rfl⟩
  · cases failed
  · cases failed
  · cases failed
  · cases failed
  · exact ⟨target, other, label, address, value, same, resolved, subtracted, rfl⟩

theorem effect_halts {command : Command} {effect : Effect} (done : command.effect program memory input = .ok effect)
    (halts : effect.next = .ok .halt) : command = .halt := by
  rcases effect_goes done halts with ⟨same, _⟩ | goes
  · exact same
  · exact absurd rfl goes.ne_halt

end Command
end RandomAccess
