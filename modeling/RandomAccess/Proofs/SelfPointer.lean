import RandomAccess.Proofs.AbstractEffects

/-! Where a subtracting jump goes astray. It looks its target up a second time, in the memory it has just
written. That finds the result again unless the target is a cell that points at itself: then the write has
moved the pointer, and what decides the jump is the cell at the address just stored, if there is one. -/

namespace RandomAccess

theorem Memory.read_write_self (memory : Memory) (address value : Int) :
    (memory.write address value).read address = .ok value := by
  simp [Memory.read, Memory.get?_write]

theorem Abstract.Reference.ofOperand_eq_indirect {operand : Operand} {pointer : Int}
    (through : Abstract.Reference.ofOperand operand = .indirect pointer) :
    operand = ⟨operand.token, .indirect, some pointer⟩ := by
  obtain ⟨token, mode, number?⟩ := operand
  cases number? <;> cases mode <;> cases through
  rfl

namespace Command

variable {program : Program} {memory : Memory} {target other : Operand} {label : Text} {address value : Int}

theorem address_write_of_other (resolved : target.address memory = .ok address)
    (elsewhere : Abstract.Reference.ofOperand target ≠ .indirect address) :
    target.address (memory.write address value) = .ok address := by
  obtain ⟨token, mode, number?⟩ := target
  cases mode with
  | direct => exact resolved
  | immediate => cases resolved
  | indirect =>
    cases number? with
    | none => cases resolved
    | some pointer =>
      have apart : pointer ≠ address := by
        rintro rfl
        exact elsewhere rfl
      have kept : (memory.write address value).read pointer = memory.read pointer := by
        simp [Memory.read, Memory.get?_write, apart]
      change ((memory.write address value).read pointer >>= Operand.checkAddress) = _
      rw [kept]
      exact resolved

theorem address_of_itself (through : Abstract.Reference.ofOperand target = .indirect address) :
    target.address memory = .ok address ↔ memory.get? address = some address ∧ 0 ≤ address := by
  rw [Abstract.Reference.ofOperand_eq_indirect through]
  change (memory.read address >>= Operand.checkAddress) = .ok address ↔ _
  unfold Memory.read
  cases memory.get? address with
  | none => simp [bind, Except.bind]
  | some pointer =>
    change Operand.checkAddress pointer = .ok address ↔ _
    unfold Operand.checkAddress
    split
    · simp only [reduceCtorEq, Option.some.injEq, false_iff]
      omega
    · simp only [Except.ok.injEq, Option.some.injEq]
      omega

theorem value_of_itself (through : Abstract.Reference.ofOperand target = .indirect address)
    (itself : memory.get? address = some address) : target.value memory = .ok address := by
  have pointed : memory.read address = .ok address := by
    simp [Memory.read, itself]
  rw [Abstract.Reference.ofOperand_eq_indirect through]
  change (memory.read address >>= memory.read) = _
  rw [pointed]
  exact pointed

/-- A second look finds the number just stored, if the pointer is still in place. -/
theorem jumpAtZero_of_other (resolved : target.address memory = .ok address)
    (elsewhere : Abstract.Reference.ofOperand target ≠ .indirect address) :
    jumpAtZero program (memory.write address value) target label =
      if value = 0 then program.jump label else .ok .advance := by
  unfold jumpAtZero
  rw [address_write_of_other resolved elsewhere]
  change ((memory.write address value).read address >>= _) = _
  rw [Memory.read_write_self]
  rfl

/-- Once the pointer has moved, a second look follows it. -/
theorem jumpAtZero_of_itself (itself : Abstract.Reference.ofOperand target = .indirect address) :
    jumpAtZero program (memory.write address value) target label =
      if value < 0 then .error .invalidAddress
      else
        match (memory.write address value).get? value with
        | none => .error (.memoryUndefined value)
        | some found => if found = 0 then program.jump label else .ok .advance := by
  rw [Abstract.Reference.ofOperand_eq_indirect itself]
  change ((memory.write address value).read address >>= Operand.checkAddress) >>= _ = _
  rw [Memory.read_write_self]
  change Operand.checkAddress value >>= _ = _
  unfold Operand.checkAddress
  split
  · rfl
  · change (memory.write address value).read value >>= _ = _
    unfold Memory.read
    cases (memory.write address value).get? value <;> rfl

end Command

namespace Abstract

/-- A subtracting jump through a cell that points at itself, with the number that it writes there. -/
inductive Instruction.Overwrites (data : Data) : Instruction → Int → Int → Target → Prop where
  | subtract {pointer value : Int} {subtrahend : Reference} {target : Target}
      (itself : data.store pointer = some pointer) (inside : 0 ≤ pointer)
      (resolved : subtrahend.value data = (.ok value, data)) :
      Overwrites data (.subtractJump (.indirect pointer) subtrahend target) pointer (pointer - value) target
  | clear {pointer : Int} {target : Target} (itself : data.store pointer = some pointer) (inside : 0 ≤ pointer) :
      Overwrites data (.clearJump (.indirect pointer) target) pointer 0 target

/-- The number written is not the result that decides the jump: the pointer has moved to a cell that
cannot be looked at, or that has another answer and the answer matters. -/
def Instruction.Strays (data : Data) (pc : Int) (instruction : Instruction) : Prop :=
  ∃ pointer written target, instruction.Overwrites data pointer written target ∧ written ≠ pointer ∧
    (written < 0 ∨ data.store written = none ∨
      ∃ found, data.store written = some found ∧ ¬ (found = 0 ↔ written = 0) ∧ target ≠ .line (pc + 1))

theorem Instruction.overwrites_iff {workspace : Workspace} {lines : List Line} {target other : Operand} {label : Text}
    {pointer written : Int} {goal : Target} :
    (ofCommand lines (.subtractJump target other label)).Overwrites workspace.data pointer written goal ↔
      Reference.ofOperand target = .indirect pointer ∧ target.address workspace.memory = .ok pointer ∧
        Command.difference target other workspace.memory = .ok written ∧ goal = .ofLabel lines label := by
  constructor
  · intro overwrites
    simp only [ofCommand] at overwrites
    unfold Command.difference
    split at overwrites
    next same =>
      generalize through : Reference.ofOperand target = reference at overwrites
      generalize Target.ofLabel lines label = found at overwrites ⊢
      cases overwrites with
      | clear itself inside => exact ⟨rfl, (Command.address_of_itself through).mpr ⟨itself, inside⟩, by simp [same], rfl⟩
    next different =>
      generalize through : Reference.ofOperand target = reference at overwrites
      generalize Target.ofLabel lines label = found at overwrites ⊢
      cases overwrites with
      | subtract itself inside resolved =>
        rw [value_looks, Prod.mk.injEq] at resolved
        refine ⟨rfl, (Command.address_of_itself through).mpr ⟨itself, inside⟩, ?_, rfl⟩
        rw [if_neg different, Command.value_of_itself through itself, resolved.1]
        rfl
  · rintro ⟨through, resolved, subtracted, rfl⟩
    obtain ⟨itself, inside⟩ := (Command.address_of_itself through).mp resolved
    simp only [ofCommand, through]
    unfold Command.difference at subtracted
    split
    next same =>
      rw [if_pos same] at subtracted
      cases subtracted
      exact .clear itself inside
    next different =>
      simp only [if_neg different, Command.value_of_itself through itself, bind_eq_ok] at subtracted
      obtain ⟨_, first, value, found, same⟩ := subtracted
      cases first
      cases same
      exact .subtract itself inside (by rw [value_looks, found])

namespace State

variable (state : State) (data : Data)

theorem conclude_error_ne_ok (fault : Fault) (move : Move) :
    state.conclude (.error fault, data) ≠ state.conclude (.ok move, data) := by
  intro same
  have reports := congrArg State.reports same
  cases move <;> simp [conclude] at reports

theorem conclude_error_kind {first second : Fault}
    (same : state.conclude (.error first, data) = state.conclude (.error second, data)) : first.kind = second.kind := by
  have reports := congrArg State.reports same
  simp only [conclude, List.append_cancel_left_eq, List.cons.injEq, Option.some.injEq, and_true] at reports
  exact congrArg Diagnostic.kind reports

/-- A jump and a step to the next line come to the same only if the jump leads there. -/
theorem conclude_jump_eq_iff (program : Program) (label : Text) :
    state.conclude (program.jump label, data) = state.conclude (.ok .advance, data) ↔
      Target.ofLabel program.lines.toList label = .line (state.status.pc + 1) := by
  rw [← Target.go_apply program label data]
  cases Target.ofLabel program.lines.toList label with
  | unresolved label =>
    change state.conclude (.error (.labelNotFound label), data) = _ ↔ _
    simp [conclude_error_ne_ok]
  | line index =>
    change state.conclude (.ok (.jump index), data) = _ ↔ _
    simp [conclude]

variable (program : Program) (label : Text)

theorem conclude_branch_eq_iff (first second : Prop) [Decidable first] [Decidable second] :
    state.conclude (if first then program.jump label else .ok .advance, data) =
        state.conclude (if second then program.jump label else .ok .advance, data) ↔
      (first ↔ second) ∨ Target.ofLabel program.lines.toList label = .line (state.status.pc + 1) := by
  rw [← conclude_jump_eq_iff state data]
  by_cases one : first <;> by_cases two : second <;> simp [one, two, eq_comm]

theorem conclude_error_ne_branch (fault : Fault) (other : fault.kind ≠ .labelNotFound) (taken : Prop) [Decidable taken] :
    state.conclude (.error fault, data) ≠
      state.conclude (if taken then program.jump label else .ok .advance, data) := by
  split
  · unfold Program.jump
    split
    · exact conclude_error_ne_ok state data fault _
    · intro same
      exact other (conclude_error_kind state data same)
  · exact conclude_error_ne_ok state data fault .advance

/-- A subtracting jump leads where its difference says, unless it goes astray. -/
theorem conclude_jumpAtZero_eq_iff {memory : Memory} {target : Operand} {address value : Int}
    (resolved : target.address memory = .ok address) :
    state.conclude (Command.jumpAtZero program (memory.write address value) target label, data) =
        state.conclude (if value = 0 then program.jump label else .ok .advance, data) ↔
      ¬ (Reference.ofOperand target = .indirect address ∧ value ≠ address ∧
        (value < 0 ∨ memory.get? value = none ∨ ∃ found, memory.get? value = some found ∧ ¬ (found = 0 ↔ value = 0) ∧
          Target.ofLabel program.lines.toList label ≠ .line (state.status.pc + 1))) := by
  by_cases itself : Reference.ofOperand target = .indirect address
  · have inside := ((Command.address_of_itself itself).mp resolved).2
    rw [Command.jumpAtZero_of_itself itself, Memory.get?_write]
    by_cases same : value = address
    · simp [same, Int.not_lt.mpr inside]
    by_cases negative : value < 0
    · have differs := conclude_error_ne_branch state data program label .invalidAddress (by decide) (value = 0)
      simp [itself, same, negative, differs]
    · cases found : memory.get? value with
      | none =>
        have differs := conclude_error_ne_branch state data program label (.memoryUndefined value)
          (by simp [Fault.kind]) (value = 0)
        simp [itself, same, negative, differs]
      | some number =>
        have branches := conclude_branch_eq_iff state data program label (number = 0) (value = 0)
        simp only [if_neg negative, if_neg same, branches, itself]
        simp [same, negative, Classical.or_iff_not_imp_left]
  · rw [Command.jumpAtZero_of_other resolved itself]
    simp [itself]

end State
end Abstract
end RandomAccess
