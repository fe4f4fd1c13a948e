import RandomAccess.Proofs.StepFrame

/-! No cell below address zero is ever written. Pointers may hold any number, also a negative one, but a
target is checked before it is written and the accumulator is at zero. So an operand that leads below zero
finds nothing to read, whatever the program has computed. -/

namespace RandomAccess

namespace Memory

def Natural (memory : Memory) : Prop :=
  ∀ cell ∈ memory.cells, 0 ≤ cell.1

theorem natural_empty : empty.Natural := by
  intro cell member
  cases member

theorem Natural.write {memory : Memory} (natural : memory.Natural) {address : Int} (nonnegative : 0 ≤ address)
    (value : Int) : (memory.write address value).Natural := by
  intro cell member
  rcases Cell.mem_of_mem_insert member with rfl | held
  · exact nonnegative
  · exact natural cell held

theorem Natural.get?_of_negative {memory : Memory} (natural : memory.Natural) {address : Int} (negative : address < 0) :
    memory.get? address = none := by
  apply List.lookup_eq_none_iff.mpr
  intro cell member
  have nonnegative := natural cell member
  apply bne_iff_ne.mpr
  omega

end Memory

namespace Machine

theorem step_natural (machine : Machine) (natural : machine.memory.Natural) : machine.step.1.memory.Natural := by
  have kept : machine.step.1.memory = machine.outcome.workspace.memory := step_memory machine
  rw [kept]
  rcases machine.outcome_frame.memory with same | ⟨address, value, nonnegative, written⟩
  · rw [same]
    exact natural
  · rw [written]
    exact natural.write nonnegative value

/-- In every state that a driver can reach, all addresses are natural, and an operand that names a negative
one is undefined. -/
theorem driven_addresses_natural {source : Text} {inputs : List Input} {limit : Option Int} {observer : Observer}
    {start final : Machine} {calls : List Call} (loads : load source inputs limit observer = .ok start)
    (driven : start.Driven calls final) :
    (∀ cell ∈ final.memory.cells, 0 ≤ cell.1) ∧
      ∀ token address, (Operand.ofToken token).Names final.memory address → address < 0 →
        (Operand.ofToken token).value final.memory = .error (.memoryUndefined address) := by
  obtain ⟨program, _, rfl⟩ := load_eq_ok loads
  have initial : (Machine.start program inputs limit observer).memory.Natural := Memory.natural_empty
  have natural : final.memory.Natural := driven.invariant step_natural initial
  refine ⟨natural, ?_⟩
  intro token address names negative
  rw [names.value_eq]
  exact Memory.read_eq_error_iff.mpr ⟨natural.get?_of_negative negative, rfl⟩

/-- A pointer that holds a negative number, followed by a step that fails on it. -/
theorem driven_addresses_natural_of_negative_pointer :
    ∃ start final, load "LOAD =-5\nSTORE 1\nADD *1".toList [] none .snapshot = .ok start ∧
      start.Driven [.step, .run] final ∧ final.status.errored = true ∧ final.memory.cells = [(0, -5), (1, -5)] ∧
      (∀ cell ∈ final.memory.cells, 0 ≤ cell.1) ∧ (Operand.ofToken "*1".toList).Names final.memory (-5) ∧
      (Operand.ofToken "*1".toList).value final.memory = .error (.memoryUndefined (-5)) := by
  let pointing := start (.ofLines [⟨1, "LOAD =-5".toList, none, "LOAD =-5".toList⟩,
    ⟨2, "STORE 1".toList, none, "STORE 1".toList⟩, ⟨3, "ADD *1".toList, none, "ADD *1".toList⟩]) [] none .snapshot
  have loads : load "LOAD =-5\nSTORE 1\nADD *1".toList [] none .snapshot = .ok pointing := rfl
  have := load_worded loads nofun
  have driven : pointing.Driven [.step, .run] (pointing.steps 3) :=
    (Driven.start.call .step).call
      (.run (runs_iff.mpr ⟨2, ⟨by decide +kernel, by decide +kernel⟩, rfl, rfl⟩))
  have names : (Operand.ofToken "*1".toList).Names (pointing.steps 3).memory (-5) := ⟨1, rfl, by decide +kernel⟩
  obtain ⟨natural, undefined⟩ := driven_addresses_natural loads driven
  exact ⟨pointing, _, loads, driven, by decide +kernel, by decide +kernel, natural, names, undefined _ _ names (by decide)⟩

end Machine
end RandomAccess
