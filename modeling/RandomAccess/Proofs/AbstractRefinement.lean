import RandomAccess.Proofs.DriverCalls
import RandomAccess.Proofs.SelfPointer

/-! Every run refines the abstract machine, step for step, as long as no subtracting jump goes astray. The
two then agree on the status, the cells, the inputs that are left, the output and the error of every step.
They part at the first jump that goes astray, so the condition is exact. -/

namespace RandomAccess

/-- The abstract state that a machine is in. -/
def Machine.view (machine : Machine) : Abstract.State :=
  ⟨machine.status, machine.workspace.data, machine.trace.toList.map (·.error?)⟩

/-- The program of a machine, read ahead of time. -/
def Machine.code (machine : Machine) : List Abstract.Instruction :=
  Abstract.decode machine.program.lines.toList

namespace Abstract

/-- The next step takes a subtracting jump that goes astray. -/
def State.Strays (code : List Instruction) (limit : Option Int) (state : State) : Prop :=
  ∃ instruction, current code limit state.status = .ok instruction ∧ instruction.Strays state.data state.status.pc

theorem current_eq (program : Program) (limit : Option Int) (status : Status) :
    current (decode program.lines.toList) limit status =
      (Machine.fetch program limit status).map fun line =>
        .ofStatement program.lines.toList (Statement.ofText line.text) := by
  unfold current Machine.fetch Program.line?
  split
  · rfl
  split
  · rfl
  cases limit.filter (· ≤ status.stepCount) with
  | some bound => rfl
  | none =>
    dsimp only
    split
    · rfl
    · simp only [decode, List.getElem?_map, Array.getElem?_toList]
      cases program.lines[status.pc.toNat]? <;> rfl

end Abstract

namespace Machine

open Abstract

variable {machine : Machine}

theorem view_step (machine : Machine) [machine.Records] :
    machine.step.1.view = machine.view.conclude machine.outcome.result := by
  have data : machine.step.1.workspace.data = machine.outcome.workspace.data := by
    rw [Workspace.data, step_memory, step_inputs, step_output]
    rfl
  have reports : machine.step.1.trace.toList.map (·.error?) =
      machine.trace.toList.map (·.error?) ++ [machine.report?] := by
    rw [step_trace]
    simp [entry]
  rw [view, data, reports, step_status, report?]
  unfold Workspace.Outcome.result
  rcases machine.outcome.next with fault | move
  · rfl
  · cases move <;> rfl

theorem outcome_of_fetched {line : Line} (fetched : fetch machine.program machine.limit machine.status = .ok line) :
    machine.outcome = machine.workspace.execute .standard machine.program (Statement.ofText line.text) := by
  simp only [outcome, fetched]

/-- What the two do with a command differs only in where a subtracting jump leads. -/
theorem conclude_command_iff (accepts : machine.workspace.observer.Accepting) (command : Command)
    {instruction : Abstract.Instruction} (same : .ofCommand machine.program.lines.toList command = instruction) :
    machine.view.conclude ((machine.workspace.taken command).perform machine.program command
        (machine.workspace.answer command)).result =
      machine.view.conclude (instruction.execute machine.workspace.data) ↔
    ¬ instruction.Strays machine.workspace.data machine.status.pc := by
  subst same
  have accepted : (machine.workspace.taken command).observer.Accepting := by rwa [Workspace.taken_observer]
  rw [Workspace.perform_result accepted, Workspace.taken_memory, Instruction.execute_eq]
  cases command with
  | subtractJump target other label =>
    simp only [Instruction.Strays, Instruction.overwrites_iff, Command.intended, Command.effect]
    cases resolved : target.address machine.workspace.memory with
    | error fault => simp [bind, Except.bind]
    | ok address =>
      cases subtracted : Command.difference target other machine.workspace.memory with
      | error fault => simp [bind, Except.bind]
      | ok value =>
        refine (State.conclude_jumpAtZero_eq_iff machine.view _ machine.program label resolved).trans (not_congr ?_)
        constructor
        · intro condition
          obtain ⟨itself, moved, astray⟩ := condition
          exact ⟨address, value, _, ⟨itself, rfl, rfl, rfl⟩, moved, astray⟩
        · rintro ⟨_, _, _, ⟨itself, same, written, rfl⟩, moved, astray⟩
          cases same
          cases written
          exact ⟨itself, moved, astray⟩
  | _ =>
    refine iff_of_true rfl ?_
    intro strays
    obtain ⟨_, _, _, overwrites, _⟩ := strays
    cases overwrites

/-- A step refines the abstract one exactly if it does not go astray. -/
theorem view_step_eq_iff (accepts : machine.workspace.observer.Accepting) :
    machine.step.1.view = machine.view.step machine.code machine.limit ↔
      ¬ machine.view.Strays machine.code machine.limit := by
  have found := current_eq machine.program machine.limit machine.status
  cases fetched : fetch machine.program machine.limit machine.status with
  | error fault =>
    have refused : current machine.code machine.limit machine.view.status = .error fault := by
      rw [fetched] at found
      exact found
    simp only [State.step, State.Strays, refused]
    split
    next worded =>
      have := records_of_worded fetched worded
      rw [view_step, outcome_of_refused fetched]
      simp [Workspace.Outcome.result, view]
    next wordless =>
      rw [step_of_escapes ⟨fault, fetched, wordless⟩]
      simp [view, lapsed]
  | ok line =>
    have := records_of_fetched fetched
    rw [view_step]
    rw [fetched] at found
    have reached : current machine.code machine.limit machine.view.status =
        .ok (.ofDecoded machine.program.lines.toList
          (InstructionSet.standard.decode (Statement.ofText line.text))) := by
      rw [← Instruction.ofStatement_eq]
      exact found
    rw [outcome_of_fetched fetched]
    simp only [State.step, State.Strays, reached, Except.ok.injEq, exists_eq_left']
    cases decoded : InstructionSet.standard.decode (Statement.ofText line.text) with
    | error fault =>
      rw [Workspace.execute_of_undecoded _ decoded]
      refine iff_of_true rfl ?_
      intro strays
      obtain ⟨_, _, _, overwrites, _⟩ := strays
      cases overwrites
    | ok command =>
      rw [Workspace.execute_of_decoded _ decoded]
      exact conclude_command_iff accepts command rfl

/-- Some steps refine the abstract ones exactly if none of them goes astray. -/
theorem view_steps_eq_iff (accepts : machine.workspace.observer.Accepting) (count : Nat) :
    (∀ index ≤ count, (machine.steps index).view = machine.view.steps machine.code machine.limit index) ↔
      ∀ index < count, ¬ (machine.view.steps machine.code machine.limit index).Strays machine.code machine.limit := by
  induction count with
  | zero =>
    refine iff_of_true ?_ (by simp)
    intro index first
    obtain rfl : index = 0 := by omega
    rfl
  | succ count ih =>
    have last (agrees : (machine.steps count).view = machine.view.steps machine.code machine.limit count) :
        (machine.steps (count + 1)).view = machine.view.steps machine.code machine.limit (count + 1) ↔
          ¬ (machine.view.steps machine.code machine.limit count).Strays machine.code machine.limit := by
      have stepped := @view_step_eq_iff (machine.steps count) (by rwa [steps_observer])
      rwa [code, steps_program, steps_limit, agrees] at stepped
    constructor
    · intro agrees index inside
      rcases Nat.lt_succ_iff_lt_or_eq.mp inside with earlier | rfl
      · exact ih.mp (fun index within => agrees index (by omega)) index earlier
      · exact (last (agrees index (by omega))).mp (agrees (index + 1) (by omega))
    · intro keeps index inside
      have earlier := ih.mpr (fun index within => keeps index (by omega))
      rcases Nat.le_succ_iff.mp inside with within | rfl
      · exact earlier index within
      · exact (last (earlier count (Nat.le_refl count))).mpr (keeps count (by omega))

/-- However many steps a loaded machine attempts, with whatever inputs and limit, it does what the abstract
machine does with its program, exactly as long as no subtracting jump goes astray. -/
theorem run_refines_iff {source : Text} {inputs : List Input} {limit : Option Int} {observer : Observer}
    (loads : load source inputs limit observer = .ok machine) (accepts : observer.Accepting) (count : Nat) :
    (∀ index ≤ count, (machine.steps index).view = (State.start inputs).steps machine.code limit index) ↔
      ∀ index < count, ¬ ((State.start inputs).steps machine.code limit index).Strays machine.code limit := by
  obtain ⟨program, _, rfl⟩ := load_eq_ok loads
  exact view_steps_eq_iff accepts count

theorem run_refines_iff_of_counting_down :
    ∃ machine, load "READ 1\ngo: SJ 1,=1,end\nJUMP go\nend: HALT".toList [.number 2] (some 9) .snapshot = .ok machine ∧
      ((∀ index ≤ 6, (machine.steps index).view = (State.start [.number 2]).steps machine.code (some 9) index) ↔
        ∀ index < 6, ¬ ((State.start [.number 2]).steps machine.code (some 9) index).Strays machine.code (some 9)) := by
  let counting := start (.ofLines [⟨1, "READ 1".toList, none, "READ 1".toList⟩,
    ⟨2, "go: SJ 1,=1,end".toList, some "go".toList, "SJ 1,=1,end".toList⟩,
    ⟨3, "JUMP go".toList, none, "JUMP go".toList⟩,
    ⟨4, "end: HALT".toList, some "end".toList, "HALT".toList⟩]) [.number 2] (some 9) .snapshot
  have loads : load "READ 1\ngo: SJ 1,=1,end\nJUMP go\nend: HALT".toList [.number 2] (some 9) .snapshot =
    .ok counting := rfl
  exact ⟨counting, loads, run_refines_iff loads (Observer.accepting_snapshot) 6⟩

/-- The cell that points at itself holds five, and four is written there. The jump is not taken, since four
is not zero, but the step fails because the fourth cell was never written. -/
theorem run_astray :
    ∃ machine, load "LOAD =5\nSTORE 5\nSJ *5,=1,end\nend: HALT".toList [] none .absent = .ok machine ∧
      (machine.steps 3).status.errored = true ∧
      ((State.start []).steps machine.code none 3).status = ⟨3, false, false, 3⟩ ∧
      ¬ ∀ count, (machine.steps count).view = (State.start []).steps machine.code none count := by
  let straying := start (.ofLines [⟨1, "LOAD =5".toList, none, "LOAD =5".toList⟩,
    ⟨2, "STORE 5".toList, none, "STORE 5".toList⟩, ⟨3, "SJ *5,=1,end".toList, none, "SJ *5,=1,end".toList⟩,
    ⟨4, "end: HALT".toList, some "end".toList, "HALT".toList⟩]) [] none .absent
  have loads : load "LOAD =5\nSTORE 5\nSJ *5,=1,end\nend: HALT".toList [] none .absent = .ok straying := rfl
  have failed : (straying.steps 3).status.errored = true := by decide
  have meant : ((State.start []).steps straying.code none 3).status = ⟨3, false, false, 3⟩ := by decide
  refine ⟨straying, loads, failed, meant, ?_⟩
  intro agrees
  have same := congrArg State.status (agrees 3)
  rw [meant] at same
  change (straying.steps 3).status = _ at same
  simp [same] at failed

end Machine
end RandomAccess
