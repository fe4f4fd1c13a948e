import RandomAccess.Proofs.FailureFrame
import RandomAccess.Proofs.SelfPointer

/-! Which way a subtracting jump goes. It is meant to go by the number that it has just stored: to its label at zero,
and to the next line otherwise. It does, unless it stores through a cell that points at itself. Then the write moves
the pointer, and what decides is the cell at the number stored. So the jump is misled exactly if that cell cannot be
read or has another answer, and in no other way. -/

namespace RandomAccess

/-- Where a jump leads that goes by a number. -/
def Program.branch (program : Program) (label : Text) (number : Int) : Except Fault Move :=
  if number = 0 then program.jump label else .ok .advance

/-- Where a jump leads that goes by the cell at a number. -/
def Program.branchAt (program : Program) (memory : Memory) (label : Text) (number : Int) : Except Fault Move := do
  let address ← Operand.checkAddress number
  let found ← memory.read address
  program.branch label found

/-- What a jump may come to that goes by a number: a label is asked for at zero only, and there is no other failure. -/
inductive Status.Branches (status : Status) (program : Program) (label : Text) (number : Int) :
    Except Fault Status → Prop where
  | jumps {index : Nat} (zero : number = 0) (known : program.target? label = some index) :
      Branches status program label number (.ok (status.jump index))
  | lost (zero : number = 0) (unknown : program.target? label = none) :
      Branches status program label number (.error (.labelNotFound label))
  | advances (nonzero : number ≠ 0) : Branches status program label number (.ok status.advance)

section Branch

variable {status : Status} {program : Program} {label : Text} {number : Int}

theorem Status.branches_iff {result : Except Fault Status} :
    status.Branches program label number result ↔ result = (program.branch label number).map status.move := by
  unfold Program.branch Program.jump
  constructor
  · intro branches
    cases branches with
    | jumps zero known => simp [zero, known, Except.map, Status.move]
    | lost zero unknown => simp [zero, unknown, Except.map]
    | advances nonzero => simp [nonzero, Except.map, Status.move]
  · rintro rfl
    by_cases zero : number = 0
    · cases known : program.target? label with
      | none =>
        rw [if_pos zero]
        exact .lost zero known
      | some index =>
        rw [if_pos zero]
        exact .jumps zero known
    · rw [if_neg zero]
      exact .advances zero

/-- A jump and a step to the next line come to the same only if the label stands there. -/
theorem Program.map_jump_eq_iff :
    (program.jump label).map status.move = .ok status.advance ↔
      ∃ index : Nat, program.target? label = some index ∧ (index : Int) = status.pc + 1 := by
  unfold Program.jump
  cases program.target? label with
  | none => simp [Except.map]
  | some index => simp [Except.map, Status.move, Status.jump, Status.advance]

theorem Program.map_branch_eq_iff {other : Int} :
    (program.branch label other).map status.move = (program.branch label number).map status.move ↔
      (other = 0 ↔ number = 0) ∨ ∃ index : Nat, program.target? label = some index ∧ (index : Int) = status.pc + 1 := by
  rw [← Program.map_jump_eq_iff]
  unfold Program.branch
  by_cases one : other = 0
  · by_cases two : number = 0
    · simp [one, two]
    · simp only [one, two, if_true, if_false, true_iff, false_or]
      rfl
  · by_cases two : number = 0
    · simp only [one, two, if_true, if_false, false_iff, not_true_eq_false, false_or]
      exact eq_comm
    · simp [one, two]

theorem Program.map_error_ne_branch {fault : Fault} (other : fault.kind ≠ .labelNotFound) :
    (Except.error fault).map status.move ≠ (program.branch label number).map status.move := by
  unfold Program.branch Program.jump
  split
  · cases program.target? label with
    | none =>
      intro same
      cases same
      exact other rfl
    | some index =>
      intro same
      cases same
  · intro same
    cases same

end Branch

/-- The target goes through the very cell that is written, and the number written there is another address. -/
def Abstract.Reference.Moved (target : Abstract.Reference) (address number : Int) : Prop :=
  target = .indirect address ∧ number ≠ address

/-- The cell at a number cannot be read, or it leads another way than the number itself. -/
def Memory.Misleads (memory : Memory) (program : Program) (label : Text) (status : Status) (number : Int) : Prop :=
  number < 0 ∨ memory.get? number = none ∨ ∃ found, memory.get? number = some found ∧ ¬ (found = 0 ↔ number = 0) ∧
    ¬ ∃ index : Nat, program.target? label = some index ∧ (index : Int) = status.pc + 1

theorem Program.branchAt_misleads_iff {program : Program} {memory : Memory} {label : Text} {status : Status} {number : Int} :
    (program.branchAt memory label number).map status.move = (program.branch label number).map status.move ↔
      ¬ memory.Misleads program label status number := by
  unfold Program.branchAt Memory.Misleads Operand.checkAddress Memory.read
  by_cases negative : number < 0
  · simp only [negative, if_true, true_or, not_true_eq_false, iff_false]
    exact Program.map_error_ne_branch (by decide)
  · cases held : memory.get? number with
    | none =>
      simp only [negative, if_false, bind, Except.bind, held, true_or, or_true, not_true_eq_false, iff_false]
      exact Program.map_error_ne_branch (by simp [Fault.kind])
    | some found =>
      simp only [negative, if_false, bind, Except.bind, held, Program.map_branch_eq_iff]
      simp [Classical.or_iff_not_imp_left]

namespace Command

variable {program : Program} {memory : Memory} {target : Operand} {label : Text} {address number : Int}

theorem jumpAtZero_of_moved (moved : (Abstract.Reference.ofOperand target).Moved address number) :
    jumpAtZero program (memory.write address number) target label = program.branchAt memory label number := by
  obtain ⟨itself, other⟩ := moved
  rw [jumpAtZero_of_itself itself, Memory.get?_write, if_neg other]
  unfold Program.branchAt Operand.checkAddress Memory.read Program.branch
  split
  · rfl
  · simp only [bind, Except.bind]
    cases memory.get? number <;> rfl

theorem jumpAtZero_of_unmoved (resolved : target.address memory = .ok address)
    (unmoved : ¬ (Abstract.Reference.ofOperand target).Moved address number) :
    jumpAtZero program (memory.write address number) target label = program.branch label number := by
  by_cases itself : Abstract.Reference.ofOperand target = .indirect address
  · have same : number = address := Classical.not_not.mp fun other => unmoved ⟨itself, other⟩
    have natural : ¬ number < 0 := by
      have inside := ((address_of_itself itself).mp resolved).2
      omega
    rw [jumpAtZero_of_itself itself, if_neg natural, Memory.get?_write, if_pos same]
    rfl
  · exact jumpAtZero_of_other resolved itself

end Command

namespace Workspace

variable {workspace : Workspace} {target other label : Text} {address difference : Int}

/-- A subtracting jump whose operands resolve makes its write, and then looks where to go. -/
theorem execute_subtractJump (accepts : workspace.observer.Accepting) (program : Program)
    (subtracts : Statement.Subtracts ⟨"SJ".toList, [target, other, label]⟩ workspace.memory address difference) :
    (Operand.ofToken target).address workspace.memory = .ok address ∧
      (workspace.execute .standard program ⟨"SJ".toList, [target, other, label]⟩).workspace.memory =
        workspace.memory.write address difference ∧
      (workspace.execute .standard program ⟨"SJ".toList, [target, other, label]⟩).next =
        Command.jumpAtZero program (workspace.memory.write address difference) (.ofToken target) label := by
  obtain ⟨_, _, _, same, resolved, result⟩ := subtracts
  cases same
  have effect : (Command.subtractJump (.ofToken target) (.ofToken other) label).effect program workspace.memory .cancel =
      .ok { write? := some (address, difference),
            next := Command.jumpAtZero program (workspace.memory.write address difference) (.ofToken target) label } :=
    bind_eq_ok.mpr ⟨address, resolved, bind_eq_ok.mpr ⟨difference, Command.difference_eq_ok_iff.mpr result, rfl⟩⟩
  have decoded : InstructionSet.standard.decode ⟨"SJ".toList, [target, other, label]⟩ =
      .ok (.subtractJump (.ofToken target) (.ofToken other) label) := rfl
  rw [execute_of_decoded workspace decoded]
  change _ ∧ (workspace.perform program _ .cancel).workspace.memory = _ ∧ (workspace.perform program _ .cancel).next = _
  rw [perform, effect]
  dsimp only
  rw [apply_accepted workspace accepts]
  exact ⟨resolved, rfl, rfl⟩

/-- Once a subtracting jump has stored its difference it goes by that number, unless its pointer has moved and the cell
it has moved to misleads it. -/
theorem subtracting_jump_branches_iff (accepts : workspace.observer.Accepting)
    (subtracts : Statement.Subtracts ⟨"SJ".toList, [target, other, label]⟩ workspace.memory address difference)
    (program : Program) (status : Status) :
    ∃ outcome, workspace.execute .standard program ⟨"SJ".toList, [target, other, label]⟩ = outcome ∧
      outcome.workspace.memory = workspace.memory.write address difference ∧
      (¬ (Abstract.Reference.ofToken target).Moved address difference → outcome.next = program.branch label difference) ∧
      ((Abstract.Reference.ofToken target).Moved address difference →
        outcome.next = program.branchAt workspace.memory label difference) ∧
      (status.Branches program label difference (outcome.next.map status.move) ↔
        ¬ ((Abstract.Reference.ofToken target).Moved address difference ∧
          workspace.memory.Misleads program label status difference)) := by
  obtain ⟨resolved, written, next⟩ := execute_subtractJump accepts program subtracts
  rw [Abstract.Reference.ofToken_eq]
  refine ⟨_, rfl, written, ?_, ?_, ?_⟩
  · intro unmoved
    rw [next, Command.jumpAtZero_of_unmoved resolved unmoved]
  · intro moved
    rw [next, Command.jumpAtZero_of_moved moved]
  · rw [Status.branches_iff, next]
    by_cases moved : (Abstract.Reference.ofOperand (.ofToken target)).Moved address difference
    · rw [Command.jumpAtZero_of_moved moved, Program.branchAt_misleads_iff]
      simp [moved]
    · rw [Command.jumpAtZero_of_unmoved resolved moved]
      simp [moved]

/-- Five is stored at five. Subtracting one through it stores four there, so the pointer moves to the fourth cell. That
cell holds zero, and the jump is taken although four was stored. -/
theorem subtracting_jump_branches_iff_of_zero_beyond :
    ∃ (workspace : Workspace) (program : Program) (outcome : Outcome), workspace.memory.cells = [(4, 0), (5, 5)] ∧
      Statement.Subtracts ⟨"SJ".toList, ["*5".toList, "=1".toList, "end".toList]⟩ workspace.memory 5 4 ∧
      workspace.execute .standard program ⟨"SJ".toList, ["*5".toList, "=1".toList, "end".toList]⟩ = outcome ∧
      outcome.next = .ok (.jump 3) ∧
      (Status.Branches {} program "end".toList 4 (outcome.next.map ({} : Status).move) ↔
        ¬ ((Abstract.Reference.ofToken "*5".toList).Moved 5 4 ∧ workspace.memory.Misleads program "end".toList {} 4)) := by
  let workspace : Workspace := { start [] .snapshot with memory := (Memory.empty.write 5 5).write 4 0 }
  let program := Program.ofLines [⟨1, [], none, []⟩, ⟨2, [], none, []⟩, ⟨3, [], none, []⟩,
    ⟨4, "end: HALT".toList, some "end".toList, "HALT".toList⟩]
  have subtracts : Statement.Subtracts ⟨"SJ".toList, ["*5".toList, "=1".toList, "end".toList]⟩ workspace.memory 5 4 :=
    ⟨_, _, _, rfl, rfl, .inr ⟨by decide, 5, 1, rfl, rfl, rfl⟩⟩
  have accepts : workspace.observer.Accepting := Observer.accepting_snapshot
  obtain ⟨outcome, executed, _, _, _, decided⟩ := subtracting_jump_branches_iff accepts subtracts program {}
  have jumps : outcome.next = .ok (.jump 3) := by
    rw [← executed]
    rfl
  exact ⟨workspace, program, outcome, rfl, subtracts, executed, jumps, decided⟩

/-- With no cell to move to, the jump fails after its write, and not for want of a label. -/
theorem subtracting_jump_misled :
    ∃ (workspace : Workspace) (program : Program) (outcome : Outcome), workspace.memory.cells = [(5, 5)] ∧
      Statement.Subtracts ⟨"SJ".toList, ["*5".toList, "=1".toList, "end".toList]⟩ workspace.memory 5 4 ∧
      workspace.execute .standard program ⟨"SJ".toList, ["*5".toList, "=1".toList, "end".toList]⟩ = outcome ∧
      outcome.workspace.memory.cells = [(5, 4)] ∧ outcome.next = .error (.memoryUndefined 4) ∧
      ∀ status : Status, ¬ status.Branches program "end".toList 4 (outcome.next.map status.move) := by
  let workspace : Workspace := { start [] .snapshot with memory := Memory.empty.write 5 5 }
  let program := Program.ofLines [⟨1, "a:".toList, some "a".toList, []⟩, ⟨2, "end:".toList, some "end".toList, []⟩]
  refine ⟨workspace, program, _, rfl, ⟨_, _, _, rfl, rfl, .inr ⟨by decide, 5, 1, rfl, rfl, rfl⟩⟩, rfl, rfl, rfl, ?_⟩
  intro status branches
  cases branches

end Workspace
end RandomAccess
