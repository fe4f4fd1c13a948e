import Mathlib.Data.Finset.Card
import RandomAccess.Proofs.OperandCells
import RandomAccess.Proofs.PrintedMemory
import RandomAccess.Proofs.StepFrame

/-! A memory holds at each address what was written there last. Whatever is asked of a fresh memory, and in whatever order,
each answer is told by the writes before it, and of these by the last one to each address alone. Only writing changes
anything. The cells are listed in ascending order, so two ways of writing give the same list exactly if they agree on all
the last writes. -/

namespace RandomAccess

/-- What can be asked of a memory: to write a cell, or to tell something of its cells. -/
inductive Access where
  | write (address value : Int)
  | read (address : Int)
  | contains (address : Int)
  | size
  | snapshot
  deriving DecidableEq, Repr

namespace Access

/-- What an access answers. The answer to a write is that of the observer, which may refuse it once it has been made. -/
inductive Answer where
  | written (result : Except Fault Unit)
  | value (result : Except Fault Int)
  | truth (held : Bool)
  | count (number : Nat)
  | cells (cells : List Cell)
  deriving DecidableEq

/-- The address that an access writes to. -/
def target? : Access → Option Int
  | .write address _ => some address
  | _ => none

/-- Something was written to the address. -/
def Written (accesses : List Access) (address : Int) : Prop :=
  ∃ value, .write address value ∈ accesses

/-- The value was written to the address, and after that nothing was written there. -/
def LastWrite (accesses : List Access) (address value : Int) : Prop :=
  ∃ before after, accesses = before ++ .write address value :: after ∧ ¬ Written after address

/-- The answer that an access should get, as told by the accesses before it. -/
inductive Answered (earlier : List Access) : Access → Answer → Prop where
  | write (address value : Int) (result : Except Fault Unit) : Answered earlier (.write address value) (.written result)
  | read {address : Int} {result : Except Fault Int} (found : ∀ value, result = .ok value ↔ LastWrite earlier address value)
      (undefined : ∀ fault, result = .error fault ↔ ¬ Written earlier address ∧ fault = .memoryUndefined address) :
      Answered earlier (.read address) (.value result)
  | contains {address : Int} {held : Bool} (agrees : held = true ↔ Written earlier address) :
      Answered earlier (.contains address) (.truth held)
  | size : Answered earlier .size (.count (earlier.filterMap target?).toFinset.card)
  | snapshot {cells : List Cell} (ascending : cells.Pairwise fun first second => first.1 < second.1)
      (listed : ∀ address value, (address, value) ∈ cells ↔ LastWrite earlier address value) :
      Answered earlier .snapshot (.cells cells)

variable {accesses : List Access} {access : Access} {address value : Int}

theorem target?_eq_some_iff : access.target? = some address ↔ ∃ value, access = .write address value := by
  cases access <;> simp [target?]

theorem mem_targets_iff : address ∈ accesses.filterMap target? ↔ Written accesses address := by
  simp only [List.mem_filterMap, target?_eq_some_iff, Written]
  constructor
  · rintro ⟨_, member, value, rfl⟩
    exact ⟨value, member⟩
  · intro written
    obtain ⟨value, member⟩ := written
    exact ⟨_, member, value, rfl⟩

theorem written_concat : Written (accesses ++ [access]) address ↔ Written accesses address ∨ access.target? = some address := by
  simp [← mem_targets_iff]

/-- The final access is the last write to its target, and leaves the last writes elsewhere. -/
theorem lastWrite_concat :
    LastWrite (accesses ++ [access]) address value ↔
      access = .write address value ∨ access.target? ≠ some address ∧ LastWrite accesses address value := by
  constructor
  · intro last
    obtain ⟨before, after, same, unwritten⟩ := last
    -- The write is the final access itself, or the final access is among those behind it.
    rcases List.eq_nil_or_concat' after with rfl | ⟨between, final, rfl⟩
    · exact .inl (List.singleton_inj.mp (List.append_inj' same rfl).2)
    · rw [← List.cons_append, ← List.append_assoc] at same
      obtain ⟨rfl, final⟩ := List.append_inj' same rfl
      rw [written_concat, not_or, ← List.singleton_inj.mp final] at unwritten
      exact .inr ⟨unwritten.2, before, between, rfl, unwritten.1⟩
  · intro last
    rcases last with rfl | ⟨elsewhere, before, after, rfl, unwritten⟩
    · exact ⟨accesses, [], rfl, by simp [Written]⟩
    · refine ⟨before, after ++ [access], by simp, ?_⟩
      rw [written_concat, not_or]
      exact ⟨unwritten, elsewhere⟩

theorem written_iff_lastWrite : Written accesses address ↔ ∃ value, LastWrite accesses address value := by
  induction accesses using List.reverseRecOn with
  | nil => simp [Written, LastWrite]
  | append_singleton accesses access ih =>
    simp only [written_concat, ih, lastWrite_concat, exists_or, exists_and_left, ← target?_eq_some_iff]
    tauto

end Access

namespace Workspace

/-- One access to the memory, with the answer to it. -/
def access (workspace : Workspace) : Access → Workspace × Access.Answer
  | .write address value => ((workspace.write address value).1, .written (workspace.write address value).2)
  | .read address => (workspace, .value (workspace.memory.read address))
  | .contains address => (workspace, .truth (workspace.memory.contains address))
  | .size => (workspace, .count workspace.memory.size)
  | .snapshot => (workspace, .cells workspace.memory.cells)

/-- What some accesses leave, one after the other. -/
def after (workspace : Workspace) (accesses : List Access) : Workspace :=
  accesses.foldl (fun workspace access => (workspace.access access).1) workspace

/-- The answers to some accesses, one after the other. -/
def answers (workspace : Workspace) : List Access → List Access.Answer
  | [] => []
  | access :: rest => (workspace.access access).2 :: (workspace.access access).1.answers rest

theorem after_concat (workspace : Workspace) (accesses : List Access) (access : Access) :
    workspace.after (accesses ++ [access]) = ((workspace.after accesses).access access).1 :=
  List.foldl_concat ..

theorem answers_getElem? (workspace : Workspace) (accesses : List Access) (index : Nat) :
    (workspace.answers accesses)[index]? =
      accesses[index]?.map fun access => ((workspace.after (accesses.take index)).access access).2 := by
  induction accesses generalizing workspace index with
  | nil => rfl
  | cons access rest ih =>
    cases index with
    | zero => rfl
    | succ index => exact ih (workspace.access access).1 index

/-- Only the writes count for what is left. -/
theorem after_filter_writes (workspace : Workspace) (accesses : List Access) :
    workspace.after accesses = workspace.after (accesses.filter fun access => access.target?.isSome) := by
  induction accesses generalizing workspace with
  | nil => rfl
  | cons access rest ih =>
    cases access with
    | write address value => exact ih (workspace.write address value).1
    | read | contains | size | snapshot => exact ih workspace

end Workspace

namespace Memory

/-- The memory holds the last writes and nothing else. -/
def Recalls (memory : Memory) (accesses : List Access) : Prop :=
  ∀ address value, memory.get? address = some value ↔ Access.LastWrite accesses address value

theorem recalls_empty : empty.Recalls [] := by
  intro address value
  simp [Access.LastWrite]

namespace Recalls

variable {memory : Memory} {accesses : List Access}

theorem access {workspace : Workspace} (recalls : workspace.memory.Recalls accesses) (access : Access) :
    (workspace.access access).1.memory.Recalls (accesses ++ [access]) := by
  intro key held
  rw [Access.lastWrite_concat, ← recalls key held]
  cases access with
  | read | contains | size | snapshot => simp [Workspace.access, Access.target?]
  | write address value =>
    have written : (workspace.write address value).1.memory = workspace.memory.write address value := by
      rw [Workspace.write_eq]
    simp only [Workspace.access, written, get?_write, Access.target?, Access.write.injEq]
    by_cases same : key = address
    · simp [same]
    · simp [same, Ne.symm same]

variable (recalls : memory.Recalls accesses)
include recalls

theorem get?_eq_none_iff {address : Int} : memory.get? address = none ↔ ¬ Access.Written accesses address := by
  rw [Access.written_iff_lastWrite, not_exists, Option.eq_none_iff_forall_ne_some]
  exact forall_congr' fun value => not_congr (recalls address value)

theorem contains_iff {address : Int} : memory.contains address = true ↔ Access.Written accesses address := by
  rw [contains, Option.isSome_iff_ne_none, Ne, recalls.get?_eq_none_iff, not_not]

theorem mem_cells_iff {address value : Int} : (address, value) ∈ memory.cells ↔ Access.LastWrite accesses address value :=
  get?_eq_some_iff.symm.trans (recalls address value)

theorem size_eq : memory.size = (accesses.filterMap Access.target?).toFinset.card := by
  -- Both count the addresses that have a last write, the cells without repeating one.
  have distinct : (memory.cells.map Prod.fst).Nodup := by
    apply List.pairwise_map.mpr
    exact memory.ascending.imp fun less => Int.ne_of_lt less
  have addresses : (accesses.filterMap Access.target?).toFinset = (memory.cells.map Prod.fst).toFinset := by
    ext address
    rw [List.mem_toFinset, List.mem_toFinset, Access.mem_targets_iff, Access.written_iff_lastWrite]
    simp [recalls.mem_cells_iff]
  rw [addresses, List.toFinset_card_of_nodup distinct, List.length_map, size]

theorem cells_eq_iff {other : Memory} {others : List Access} (recallsOther : other.Recalls others) :
    memory.cells = other.cells ↔
      ∀ address value, Access.LastWrite accesses address value ↔ Access.LastWrite others address value := by
  constructor
  · intro same address value
    rw [← recalls.mem_cells_iff, same, recallsOther.mem_cells_iff]
  · intro agree
    apply congrArg cells
    apply eq_of_get?
    intro address
    apply Option.ext
    intro value
    exact (recalls address value).trans ((agree address value).trans (recallsOther address value).symm)

end Recalls
end Memory

namespace Workspace

variable {workspace : Workspace} {accesses : List Access}

theorem answered (recalls : workspace.memory.Recalls accesses) (access : Access) :
    Access.Answered accesses access (workspace.access access).2 := by
  cases access with
  | write address value => exact .write address value _
  | read address =>
    refine .read ?_ ?_
    · intro value
      exact Memory.read_eq_ok_iff.trans (recalls address value)
    · intro fault
      rw [Memory.read_eq_error_iff, recalls.get?_eq_none_iff]
  | contains address => exact .contains recalls.contains_iff
  | size =>
    rw [Workspace.access, recalls.size_eq]
    exact .size
  | snapshot => exact .snapshot workspace.memory.ascending fun _ _ => recalls.mem_cells_iff

variable (inputs : List Input) (observer : Observer)

/-- Whatever has been asked of a fresh memory, it holds the last writes. -/
theorem after_recalls (accesses : List Access) : ((start inputs observer).after accesses).memory.Recalls accesses := by
  induction accesses using List.reverseRecOn with
  | nil => exact Memory.recalls_empty
  | append_singleton accesses access ih =>
    rw [after_concat]
    exact ih.access access

/-- Whoever observes a fresh memory, every answer that it gives is told by the last writes before it, only the writes change
anything, and two ways of writing leave the same cells if and only if they have the same last write for every address. -/
theorem last_write_wins :
    (∀ (accesses : List Access) (index : Nat) (access : Access), accesses[index]? = some access →
      ∃ answer, ((start inputs observer).answers accesses)[index]? = some answer ∧
        Access.Answered (accesses.take index) access answer) ∧
    (∀ accesses : List Access, (start inputs observer).after accesses =
      (start inputs observer).after (accesses.filter fun access => access.target?.isSome)) ∧
    ∀ first second : List Access,
      ((start inputs observer).after first).memory.cells = ((start inputs observer).after second).memory.cells ↔
        ∀ address value, Access.LastWrite first address value ↔ Access.LastWrite second address value := by
  refine ⟨?_, (start inputs observer).after_filter_writes, ?_⟩
  · intro accesses index access asked
    refine ⟨_, by rw [answers_getElem?, asked, Option.map_some], ?_⟩
    exact answered (after_recalls inputs observer (accesses.take index)) access
  · intro first second
    exact (after_recalls inputs observer first).cells_eq_iff (after_recalls inputs observer second)

/-- A cell at a negative address is overwritten, and one at an address too long to be written stands although the observer
refuses it. -/
theorem last_write_wins_of_refused_write :
    let accesses : List Access := [.write (-3) 5, .write Numeral.bound 7, .read (-3), .write (-3) 6, .snapshot, .read 4]
    (start [] .table).answers accesses =
      [.written (.ok ()), .written (.error (.outOfRange Numeral.limitMessage)), .value (.ok 5),
        .written (.error (.outOfRange Numeral.limitMessage)), .cells [(-3, 6), (Numeral.bound, 7)],
        .value (.error (.memoryUndefined 4))] ∧
    Access.LastWrite (accesses.take 4) (-3) 6 ∧ ¬ Access.Written (accesses.take 5) 4 ∧
    ∀ address value, Access.LastWrite accesses address value ↔
      Access.LastWrite [.write Numeral.bound 7, .write (-3) 6] address value := by
  intro accesses
  obtain ⟨answered, _, same⟩ := last_write_wins [] .table
  have told : (start [] .table).answers accesses =
      [.written (.ok ()), .written (.error (.outOfRange Numeral.limitMessage)), .value (.ok 5),
        .written (.error (.outOfRange Numeral.limitMessage)), .cells [(-3, 6), (Numeral.bound, 7)],
        .value (.error (.memoryUndefined 4))] := by
    decide +kernel
  refine ⟨told, ?_, ?_, (same _ _).mp (by decide +kernel)⟩
  · obtain ⟨answer, given, shown⟩ := answered accesses 4 .snapshot rfl
    rw [told] at given
    cases given
    cases shown with
    | snapshot _ listed => exact (listed (-3) 6).mp List.mem_cons_self
  · obtain ⟨answer, given, shown⟩ := answered accesses 5 (.read 4) rfl
    rw [told] at given
    cases given
    cases shown with
    | read _ undefined => exact ((undefined (.memoryUndefined 4)).mp rfl).1

end Workspace
end RandomAccess
