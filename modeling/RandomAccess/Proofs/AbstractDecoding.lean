import RandomAccess.Proofs.AbstractMachine
import RandomAccess.Proofs.CommandEffects

/-! Reading a program ahead of time finds what looking at each line when it is reached would find. The last
line with a label is where the table of labels sends a jump, and a statement that cannot be executed fails
with the same fault. -/

namespace RandomAccess.Abstract

theorem lookup_ofLines (label : Text) (lines : List Line) (index : Nat) :
    ((lines.zipIdx index).filterMap fun (line, index) => line.label?.map (·, index)).reverse.lookup label =
      lastLabelled label index lines := by
  induction lines generalizing index with
  | nil => rfl
  | cons line rest ih =>
    rw [List.zipIdx_cons, List.filterMap_cons, lastLabelled, ← ih (index + 1)]
    cases named : line.label? with
    | none => simp [named]
    | some other =>
      simp only [named, Option.map_some, List.reverse_cons, List.lookup_append]
      by_cases same : label = other
      · simp [same]
      · simp [List.lookup_cons, beq_eq_false_iff_ne.2 same, Ne.symm same]

theorem lastLabelled_eq (program : Program) (label : Text) :
    lastLabelled label 0 program.lines.toList = program.target? label := by
  rw [Program.target?_eq, ← lookup_ofLines]
  rfl

/-- The reference that an operand is. -/
def Reference.ofOperand (operand : Operand) : Reference :=
  match operand.number?, operand.mode with
  | some cell, .direct => .direct cell
  | some cell, .indirect => .indirect cell
  | some number, .immediate => .immediate number
  | none, mode => .malformed mode operand.token

theorem Reference.ofToken_eq (token : Text) : Reference.ofToken token = .ofOperand (.ofToken token) := by
  unfold Reference.ofToken
  split
  next rest =>
    change _ = Reference.ofOperand ⟨'*' :: rest, .indirect, Numeral.parse? rest⟩
    cases Numeral.parse? rest <;> rfl
  next rest =>
    change _ = Reference.ofOperand ⟨'=' :: rest, .immediate, Numeral.parse? rest⟩
    cases Numeral.parse? rest <;> rfl
  next pointer number =>
    have plain : Operand.ofToken token = ⟨token, .direct, Numeral.parse? token⟩ := by
      unfold Operand.ofToken
      split
      next rest => exact absurd rfl (pointer rest)
      next rest => exact absurd rfl (number rest)
      next => rfl
    rw [plain]
    cases Numeral.parse? token <;> rfl

namespace Instruction

/-- The instruction that a command is. -/
def ofCommand (lines : List Line) : Command → Instruction
  | .skip => .skip
  | .load source => .load (.ofOperand source)
  | .store target => .store (.ofOperand target)
  | .arithmetic operation operand => .arithmetic operation (.ofOperand operand)
  | .jump label => .jump (.ofLabel lines label)
  | .jumpIf condition label => .jumpIf condition (.ofLabel lines label)
  | .subtractJump target other label =>
    if target.token = other.token then .clearJump (.ofOperand target) (.ofLabel lines label)
    else .subtractJump (.ofOperand target) (.ofOperand other) (.ofLabel lines label)
  | .read target => .read (.ofOperand target)
  | .write source => .write (.ofOperand source)
  | .halt => .halt

def ofDecoded (lines : List Line) : Except Fault Command → Instruction
  | .ok command => ofCommand lines command
  | .error fault => .fail fault

variable {lines : List Line} {keyword : Text} {operands : List Text}

theorem decode_of_known (known : RandomAccess.Instruction) (named : keyword.isEmpty = false)
    (found : InstructionSet.standard.get? keyword = some known) :
    InstructionSet.standard.decode ⟨keyword, operands⟩ = known.command operands := by
  simp [InstructionSet.decode, named, found]

theorem unary_eq {known : RandomAccess.Instruction} {usage : String} {make : Text → Instruction}
    (named : keyword.isEmpty = false) (found : InstructionSet.standard.get? keyword = some known)
    (arity : known.arity = 1) (used : known.usage = usage)
    (made : ∀ token, ∃ command, known.operation.command? [token] = some command ∧
      ofCommand lines command = make token) :
    unary usage make operands = ofDecoded lines (InstructionSet.standard.decode ⟨keyword, operands⟩) := by
  rw [decode_of_known known named found, RandomAccess.Instruction.command, arity, used]
  rcases operands with _ | ⟨token, _ | ⟨second, rest⟩⟩
  · rfl
  · obtain ⟨command, parsed, same⟩ := made token
    simp [unary, parsed, ofDecoded, same]
  · rw [if_neg (by rw [List.length_cons, List.length_cons]; omega)]
    rfl

theorem subtraction_eq (lines : List Line) (operands : List Text) :
    subtraction lines operands = ofDecoded lines (InstructionSet.standard.decode ⟨"SJ".toList, operands⟩) := by
  rw [decode_of_known ⟨"SJ".toList, 3, "SJ X,Y,Z", .subtractJump⟩ rfl rfl, RandomAccess.Instruction.command]
  rcases operands with _ | ⟨minuend, _ | ⟨subtrahend, _ | ⟨label, _ | ⟨fourth, rest⟩⟩⟩⟩
  · rfl
  · rfl
  · rfl
  · simp [Operation.command?, ofDecoded, ofCommand, subtraction, Reference.ofToken_eq]
  · rw [if_neg (by simp only [List.length_cons]; omega)]
    rfl

theorem halting_eq (lines : List Line) (operands : List Text) :
    halting operands = ofDecoded lines (InstructionSet.standard.decode ⟨"HALT".toList, operands⟩) := by
  rw [decode_of_known ⟨"HALT".toList, 0, "HALT", .halt⟩ rfl rfl, RandomAccess.Instruction.command]
  rcases operands with _ | ⟨first, rest⟩
  · rfl
  · have wrong : ¬ ((first :: rest).length : Int) = 0 := by
      rw [List.length_cons]
      omega
    rw [if_neg wrong]
    rfl

private theorem keyword_of_ofList {name : String} (same : String.ofList keyword = name) : keyword = name.toList := by
  rw [← same, String.toList_ofList]

/-- A statement read ahead of time is the command it stands for, or the fault it has. -/
theorem ofStatement_eq (lines : List Line) (statement : Statement) :
    ofStatement lines statement = ofDecoded lines (InstructionSet.standard.decode statement) := by
  obtain ⟨keyword, operands⟩ := statement
  unfold ofStatement
  dsimp only
  split
  case h_1 same =>
    obtain rfl := keyword_of_ofList same
    rfl
  case h_11 same =>
    obtain rfl := keyword_of_ofList same
    exact subtraction_eq lines operands
  case h_14 same =>
    obtain rfl := keyword_of_ofList same
    exact halting_eq lines operands
  case h_15 =>
    have named : keyword.isEmpty = false := by
      cases keyword with
      | nil => contradiction
      | cons first rest => rfl
    have unknown : InstructionSet.standard.get? keyword = none := by
      rw [InstructionSet.get?, List.find?_eq_none]
      intro known member same
      have spelled : String.ofList keyword = String.ofList known.keyword := by rw [eq_of_beq same]
      simp only [InstructionSet.standard, InstructionSet.freeze, InstructionSet.extensible, List.mem_cons,
        List.not_mem_nil, or_false] at member
      rcases member with rfl | rfl | rfl | rfl | rfl | rfl | rfl | rfl | rfl | rfl | rfl | rfl | rfl
      all_goals contradiction
    simp [InstructionSet.decode, named, unknown, ofDecoded]
  all_goals
    next same =>
      obtain rfl := keyword_of_ofList same
      exact unary_eq rfl rfl rfl rfl fun token => ⟨_, rfl, by simp [ofCommand, Reference.ofToken_eq]⟩

end Instruction
end RandomAccess.Abstract
