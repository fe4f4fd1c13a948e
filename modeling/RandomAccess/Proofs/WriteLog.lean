import Mathlib.Data.List.Chain
import RandomAccess.Proofs.FailureFrame
import RandomAccess.Proofs.PrintedMemory
import RandomAccess.Proofs.StepAttempts
import RandomAccess.Proofs.TraceLifecycle

/-! The log of an observer that sees the cells. It has one snapshot for each number stored: for each step that loads,
stores, calculates, reads or subtracts, also if it subtracts and cannot jump after that. Each snapshot assigns one cell
of the one before it, and the last one is the memory as it is. -/

namespace RandomAccess

/-- A chain goes on with whatever may follow its last member. -/
theorem isChain_concat {α : Type} {follows : α → α → Prop} {first next : α} {rest : List α}
    (chained : List.IsChain follows (first :: rest)) (last : follows (rest.getLastD first) next) :
    List.IsChain follows (first :: (rest ++ [next])) := by
  rw [← List.cons_append]
  apply List.isChain_append.mpr
  refine ⟨chained, List.isChain_singleton next, ?_⟩
  intro earlier before later same
  have latest : rest.getLastD first = earlier := by simpa [List.getLast?_cons] using before
  obtain rfl : next = later := by simpa using same
  exact latest ▸ last

def Event.snapshot? : Event → Option Memory
  | .memory shown => some shown
  | _ => none

namespace Memory

/-- One cell has been assigned, and every other is as it was. -/
def Assigns (earlier later : Memory) : Prop :=
  ∃ address value, ∀ key, later.get? key = if key = address then some value else earlier.get? key

theorem assigns_write (memory : Memory) (address value : Int) : memory.Assigns (memory.write address value) :=
  ⟨address, value, memory.get?_write address value⟩

/-- Every cell of the one is a cell of the other, whatever it holds. -/
def Within (earlier later : Memory) : Prop :=
  ∀ key, earlier.contains key = true → later.contains key = true

theorem Assigns.within {earlier later : Memory} (assigns : earlier.Assigns later) : earlier.Within later := by
  obtain ⟨address, value, assigned⟩ := assigns
  intro key defined
  rw [contains, assigned]
  split
  · rfl
  · exact defined

instance : Trans Within Within Within where
  trans first second key defined := second key (first key defined)

end Memory

def Statement.storingKeywords : List Text :=
  ["LOAD".toList, "STORE".toList, "ADD".toList, "SUB".toList, "MULT".toList, "DIV".toList, "READ".toList, "SJ".toList]

/-- The operations that store a number when they succeed. -/
def Operation.stores : Operation → Bool
  | .load | .store | .arithmetic _ | .subtractJump | .read => true
  | .skip | .jump | .jumpIf _ | .write | .halt => false

theorem Operation.stores_iff (operation : Operation) :
    operation.stores = true ↔ operation.keyword ∈ Statement.storingKeywords := by
  cases operation with
  | arithmetic operation => cases operation <;> decide
  | jumpIf condition => cases condition <;> decide
  | _ => decide

theorem Command.effect_stores {program : Program} {memory : Memory} {input : Input} {command : Command} {effect : Effect}
    (done : command.effect program memory input = .ok effect) : effect.write?.isSome = command.operation.stores := by
  cases command <;> simp only [Command.effect, bind_eq_ok] at done
  case skip | halt =>
    cases done
    rfl
  case load | jump =>
    obtain ⟨_, _, same⟩ := done
    cases same
    rfl
  case store | subtractJump | read =>
    obtain ⟨_, _, _, _, same⟩ := done
    cases same
    rfl
  case arithmetic =>
    obtain ⟨_, _, _, _, _, _, same⟩ := done
    cases same
    rfl
  case jumpIf =>
    obtain ⟨_, _, same⟩ := done
    split at same
    · obtain ⟨_, _, same⟩ := bind_eq_ok.mp same
      cases same
      rfl
    · cases same
      rfl
  case write =>
    obtain ⟨_, _, same⟩ := done
    split at same <;> cases same
    rfl

theorem InstructionSet.decode_stores {statement : Statement} {command : Command}
    (decoded : standard.decode statement = .ok command) :
    command.operation.stores = true ↔ statement.keyword ∈ Statement.storingKeywords := by
  rw [Operation.stores_iff]
  rcases decode_eq_ok decoded with ⟨blank, rfl⟩ | ⟨written, _⟩
  · rw [blank]
    rfl
  · rw [← written]
    rfl

/-- The record of a step that stored a number: one that succeeded with a storing instruction, or a subtracting jump
that failed when its difference had been stored. -/
def Entry.Stores (earlier : Memory) (entry : Entry) : Prop :=
  entry.error? = none ∧ (Statement.ofText entry.instruction).keyword ∈ Statement.storingKeywords ∨
    entry.error? ≠ none ∧ ∃ address difference,
      (Statement.ofText entry.instruction).Subtracts earlier address difference

/-- The memory with the number that an effect stores, if it stores one. -/
def Effect.stored? (effect : Effect) (memory : Memory) : Option Memory :=
  effect.write?.map fun cell => memory.write cell.1 cell.2

namespace Effect

variable (effect : Effect) (memory : Memory)

theorem written_eq : effect.written memory = (effect.stored? memory).getD memory := by
  simp only [written, stored?]
  cases effect.write? <;> rfl

theorem consequence_snapshot :
    effect.consequence .snapshot memory =
      { memory := effect.written memory, output := effect.output, next := effect.next
        events := (effect.stored? memory).toList.map .memory ++ effect.output.map .output } := by
  simp only [consequence, refusal?, written, seen, stored?]
  cases effect.write? <;> rfl

theorem snapshots_eq :
    (effect.consequence .snapshot memory).events.filterMap Event.snapshot? = (effect.stored? memory).toList := by
  rw [consequence_snapshot]
  cases effect.stored? memory <;> simp [List.filterMap_map, Function.comp_def, Event.snapshot?]

end Effect

namespace Machine

/-- The snapshots that the observer has been shown, in order. -/
def snapshots (machine : Machine) : List Memory :=
  machine.workspace.events.toList.filterMap Event.snapshot?

/-- The memory with the number that the next step stores, if it stores one. -/
def stored? (machine : Machine) : Option Memory :=
  machine.attempt.toOption.bind fun effect => effect.stored? machine.memory

theorem assigns_of_stored {machine : Machine} {later : Memory} (stored : machine.stored? = some later) :
    machine.memory.Assigns later := by
  obtain ⟨effect, _, stored⟩ := Option.bind_eq_some_iff.mp stored
  obtain ⟨cell, _, rfl⟩ := Option.map_eq_some_iff.mp stored
  exact machine.memory.assigns_write cell.1 cell.2

theorem memory_step_eq (machine : Machine) : machine.step.1.memory = machine.stored?.getD machine.memory := by
  rw [memory_step, stored?]
  cases machine.attempt with
  | error fault => rfl
  | ok effect => exact (effect.consequence_memory _ _).trans (effect.written_eq machine.memory)

theorem isSome_stored?_iff {machine : Machine} :
    machine.stored?.isSome = true ↔ ∃ effect, machine.attempt = .ok effect ∧ effect.write?.isSome = true := by
  rw [stored?]
  cases machine.attempt <;> simp [Except.toOption, Effect.stored?]

theorem attempt_of_next {machine : Machine} {move : Move} (next : machine.consequence.next = .ok move) :
    ∃ effect, machine.attempt = .ok effect := by
  rw [consequence_eq, Consequence.asking_next] at next
  cases attempted : machine.attempt with
  | ok effect => exact ⟨effect, rfl⟩
  | error fault =>
    rw [attempted] at next
    cases next

/-- A subtracting jump whose operands resolve comes to its write, whatever it does then. -/
theorem attempt_of_subtracts {machine : Machine} {address difference : Int}
    (subtracts : (Statement.ofText machine.instruction).Subtracts machine.memory address difference) :
    ∃ effect, machine.attempt = .ok effect ∧ effect.write?.isSome = true := by
  rw [instruction_eq] at subtracts
  cases fetched : machine.fetched with
  | error fault =>
    rw [fetched] at subtracts
    obtain ⟨_, _, _, impossible, _⟩ := subtracts
    cases impossible
  | ok text =>
    rw [fetched] at subtracts
    obtain ⟨command, effect, decoded, silent, done, writes, _⟩ := subtracts.effect machine.program .cancel
    have attempted : (Statement.ofText text).attempt machine.program machine.memory
        (machine.workspace.inputs.headD .cancel) = .ok effect :=
      Statement.attempt_eq_ok_iff.mpr ⟨command, decoded, by simpa [silent] using done⟩
    refine ⟨effect, bind_eq_ok.mpr ⟨text, fetched, attempted⟩, ?_⟩
    rw [writes]
    rfl

section Watched

variable {machine : Machine} (watched : machine.workspace.observer = .snapshot)
include watched

theorem snapshots_step : machine.step.1.snapshots = machine.snapshots ++ machine.stored?.toList := by
  rw [snapshots, step_workspace, Array.toList_appendList, List.filterMap_append,
    filterMap_logged machine rfl fun _ _ => rfl, watched, stored?]
  cases machine.attempt with
  | error fault => rfl
  | ok effect => exact congrArg (machine.snapshots ++ ·) (effect.snapshots_eq machine.memory)

theorem next_of_attempt {effect : Effect} (attempted : machine.attempt = .ok effect) :
    machine.consequence.next = effect.next := by
  rw [consequence_eq, Consequence.asking_next, attempted, watched]
  simp only [Consequence.ofAttempt, Effect.consequence_snapshot]

/-- A step stores a number exactly if its record says so. -/
theorem stores_iff : machine.entry.Stores machine.memory ↔ machine.stored?.isSome = true := by
  have succeeds : machine.entry.error? = none ↔ ∃ move, machine.consequence.next = .ok move := by
    rw [← outcome_next]
    exact report?_eq_none_iff
  rw [isSome_stored?_iff]
  constructor
  · rintro (⟨made, keyword⟩ | ⟨_, address, difference, subtracts⟩)
    · obtain ⟨move, next⟩ := succeeds.mp made
      obtain ⟨effect, attempted⟩ := attempt_of_next next
      obtain ⟨command, decoded, done⟩ := Statement.attempt_eq_ok_iff.mp (attempt_eq_ok attempted)
      refine ⟨effect, attempted, ?_⟩
      rw [Command.effect_stores done]
      exact (InstructionSet.decode_stores decoded).mpr keyword
    · exact attempt_of_subtracts subtracts
  · intro stored
    obtain ⟨effect, attempted, writes⟩ := stored
    obtain ⟨command, decoded, done⟩ := Statement.attempt_eq_ok_iff.mp (attempt_eq_ok attempted)
    rw [next_of_attempt watched attempted] at succeeds
    cases next : effect.next with
    | ok move =>
      rw [Command.effect_stores done] at writes
      exact .inl ⟨succeeds.mpr ⟨move, next⟩, (InstructionSet.decode_stores decoded).mp writes⟩
    | error fault =>
      refine .inr ⟨?_, Statement.subtracts_of_fails_late decoded done next⟩
      rw [Ne, succeeds, next]
      simp

end Watched

/-- How an observed machine stands to what it has shown of its memory. -/
structure Shown (machine : Machine) : Prop where
  watched : machine.workspace.observer = .snapshot
  chained : List.IsChain Memory.Assigns (.empty :: machine.snapshots)
  last : machine.memory = machine.snapshots.getLastD .empty

theorem Shown.step {machine : Machine} (shown : machine.Shown) : machine.step.1.Shown := by
  refine ⟨?_, ?_, ?_⟩
  · rw [step_observer, shown.watched]
  · rw [snapshots_step shown.watched]
    cases stored : machine.stored? with
    | none => simpa using shown.chained
    | some later =>
      have assigns := assigns_of_stored stored
      rw [shown.last] at assigns
      exact isChain_concat shown.chained assigns
  · rw [snapshots_step shown.watched, memory_step_eq]
    cases machine.stored? with
    | none => simpa using shown.last
    | some later => simp

theorem load_shown {source : Text} {inputs : List Input} {limit : Option Int} {machine : Machine}
    (loads : load source inputs limit .snapshot = .ok machine) : machine.Shown := by
  obtain ⟨program, _, rfl⟩ := load_eq_ok loads
  exact ⟨rfl, .singleton _, rfl⟩

/-- The log of the observer from the start of a machine, entry by entry. -/
structure WriteLog (start final : Machine) : Prop where
  /-- Every attempt is on record, unless the first one already escapes. -/
  attempts : final = start.steps final.trace.size ∨ start.Escapes ∧ final = start.lapsed
  /-- A snapshot lists the defined cells, and no others, in ascending order. -/
  listed : ∀ snapshot ∈ final.snapshots, snapshot.cells.Pairwise (fun first second => first.1 < second.1) ∧
    ∀ address value, (address, value) ∈ snapshot.cells ↔ snapshot.get? address = some value
  chained : List.IsChain Memory.Assigns (.empty :: final.snapshots)
  kept : List.Pairwise Memory.Within (.empty :: final.snapshots)
  last : final.memory = final.snapshots.getLastD .empty
  stored : ∀ (index : Nat) (entry : Entry), final.trace[index]? = some entry →
    entry.Stores (start.steps index).memory →
    (start.steps (index + 1)).snapshots = (start.steps index).snapshots ++ [(start.steps (index + 1)).memory]
  unstored : ∀ (index : Nat) (entry : Entry), final.trace[index]? = some entry →
    ¬ entry.Stores (start.steps index).memory → (start.steps (index + 1)).snapshots = (start.steps index).snapshots
  recorded : ∀ (index : Nat) (entry : Entry), final.trace[index]? = some entry →
    entry.memory = (start.steps (index + 1)).snapshots.getLastD .empty

/-- Whatever a driver asks of a machine that is observed, the log of the observer tells every write. -/
theorem driven_write_log {source : Text} {inputs : List Input} {limit : Option Int} {start final : Machine}
    {calls : List Call} (loads : load source inputs limit .snapshot = .ok start) (driven : start.Driven calls final) :
    WriteLog start final := by
  obtain ⟨attempts, found⟩ := driven.recorded loads
  have shown (count : Nat) : (start.steps count).Shown := steps_invariant (fun _ shown => shown.step) (load_shown loads) count
  obtain ⟨count, rfl⟩ := driven.steps
  refine ⟨attempts, ?_, (shown count).chained, ?_, (shown count).last, ?_, ?_, ?_⟩
  · intro snapshot _
    exact ⟨snapshot.ascending, fun address value => Memory.get?_eq_some_iff.symm⟩
  · exact ((shown count).chained.imp fun _ _ assigns => assigns.within).pairwise
  · intro index entry held stores
    rw [← found held] at stores
    obtain ⟨later, stored⟩ := Option.isSome_iff_exists.mp ((stores_iff (shown index).watched).mp stores)
    rw [steps, snapshots_step (shown index).watched, memory_step_eq, stored]
    rfl
  · intro index entry held idle
    rw [← found held, stores_iff (shown index).watched, Bool.not_eq_true, Option.isSome_eq_false_iff,
      Option.isNone_iff_eq_none] at idle
    rw [steps, snapshots_step (shown index).watched, idle]
    exact List.append_nil _
  · intro index entry held
    rw [← found held, ← (shown (index + 1)).last]
    exact (step_memory _).symm

/-- The last step subtracts, stores zero, and finds no label. -/
theorem driven_write_log_of_lost_label :
    ∃ start final, load "LOAD =5\nSTORE 1\nSJ 1,=5,gone".toList [] none .snapshot = .ok start ∧
      start.Driven [.run] final ∧ final.status.errored = true ∧
      final.snapshots.map Memory.cells = [[(0, 5)], [(0, 5), (1, 5)], [(0, 5), (1, 0)]] ∧ WriteLog start final := by
  let losing := start (.ofLines [⟨1, "LOAD =5".toList, none, "LOAD =5".toList⟩,
    ⟨2, "STORE 1".toList, none, "STORE 1".toList⟩, ⟨3, "SJ 1,=5,gone".toList, none, "SJ 1,=5,gone".toList⟩])
    [] none .snapshot
  have loads : load "LOAD =5\nSTORE 1\nSJ 1,=5,gone".toList [] none .snapshot = .ok losing := rfl
  have finishes : losing.FinishesAt 3 := ⟨by decide +kernel, by decide +kernel⟩
  have := load_worded loads nofun
  have driven : losing.Driven [.run] (losing.steps 3) :=
    Driven.start.call (.run (runs_iff.mpr ⟨3, finishes, rfl, rfl⟩))
  exact ⟨losing, _, loads, driven, by decide +kernel, by decide +kernel, driven_write_log loads driven⟩

end Machine
end RandomAccess
