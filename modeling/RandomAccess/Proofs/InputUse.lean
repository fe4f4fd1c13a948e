import RandomAccess.Proofs.DriverAnswers
import RandomAccess.Proofs.StepConsequences

/-! Inputs are taken in order: one by each attempt to read one, whether or not the attempt succeeds, and none
by anything else. So a machine depends only on the inputs that it takes. More of them behind those that are left
change nothing, as long as the machine does not ask for one that it does not have. -/

namespace RandomAccess

/-- A statement that takes an input. With any other number of operands it takes none. -/
def Statement.reads (statement : Statement) : Bool :=
  statement.keyword == "READ".toList && statement.operands.length == 1

namespace Statement

theorem reads_iff {statement : Statement} : statement.reads = true ↔ ∃ target, statement = ⟨"READ".toList, [target]⟩ := by
  obtain ⟨keyword, operands⟩ := statement
  simp only [reads, Bool.and_eq_true, beq_iff_eq, List.length_eq_one_iff, mk.injEq, exists_and_left]

theorem decode_read (target : Text) :
    InstructionSet.standard.decode ⟨"READ".toList, [target]⟩ = .ok (.read (.ofToken target)) := rfl

variable (program : Program) (memory : Memory) (observer : Observer)

theorem consequence_read (input : Input) (target : Text) :
    consequence program memory observer input ⟨"READ".toList, [target]⟩ =
      ((Command.read (.ofToken target)).performed program memory observer input).afterAsking := by
  rw [consequence, decode_read]
  rfl

theorem consequence_asked (input : Input) (statement : Statement) :
    (statement.consequence program memory observer input).asked = statement.reads := by
  cases reads : statement.reads with
  | true =>
    obtain ⟨target, rfl⟩ := reads_iff.mp reads
    rw [consequence_read]
    rfl
  | false =>
    unfold consequence
    cases decoded : InstructionSet.standard.decode statement with
    | error fault => rfl
    | ok command =>
      cases asks : command.asks with
      | false => simp [Command.consequence, asks, Command.performed_asked]
      | true =>
        have other := reads_iff.mpr (InstructionSet.decode_asks decoded asks)
        simp [reads] at other

/-- Whatever takes no input comes to the same, whichever input is next. -/
theorem consequence_of_unread {statement : Statement} (unread : statement.reads = false) (first second : Input) :
    statement.consequence program memory observer first = statement.consequence program memory observer second := by
  have unasked := consequence_asked program memory observer first statement
  rw [unread] at unasked
  unfold consequence at unasked ⊢
  cases decoded : InstructionSet.standard.decode statement with
  | error fault => rfl
  | ok command =>
    simp only [decoded, Command.consequence] at unasked ⊢
    split at unasked
    · cases unasked
    next silent => simp [silent]

end Statement

theorem Effect.consequence_memory (effect : Effect) (observer : Observer) (memory : Memory) :
    (effect.consequence observer memory).memory = effect.written memory := by
  unfold consequence
  split <;> rfl

theorem Effect.input_notMem_events (effect : Effect) (observer : Observer) (memory : Memory) :
    .input ∉ (effect.consequence observer memory).events := by
  unfold consequence
  split
  · simp
  · intro member
    rcases List.mem_append.mp member with seen | put
    · rcases mem_seen seen with ⟨_, other⟩ | ⟨_, other⟩ <;> cases other
    · simp at put

theorem Command.input_notMem_events (program : Program) (memory : Memory) (observer : Observer) (input : Input)
    (command : Command) : .input ∉ (command.performed program memory observer input).events := by
  unfold performed
  split
  next effect _ => exact effect.input_notMem_events observer memory
  next => simp

theorem Statement.count_input (program : Program) (memory : Memory) (observer : Observer) (input : Input)
    (statement : Statement) :
    (statement.consequence program memory observer input).events.count .input = statement.reads.toNat := by
  rw [← consequence_asked program memory observer input]
  unfold consequence
  split
  next command decoded =>
    have quiet (input : Input) := List.count_eq_zero.mpr (command.input_notMem_events program memory observer input)
    unfold Command.consequence
    split
    · simp [Consequence.afterAsking, quiet]
    · simp [Command.performed_asked, quiet]
  next => rfl

/-- The record of a step that took an input. -/
def Entry.reads (entry : Entry) : Bool :=
  (Statement.ofText entry.instruction).reads

namespace Machine

/-- How often an input has been asked for. -/
def requests (machine : Machine) : Nat :=
  machine.workspace.events.toList.count .input

/-- The machine with more inputs behind those that are left. -/
def feed (later : List Input) (machine : Machine) : Machine :=
  { machine with workspace := { machine.workspace with inputs := machine.workspace.inputs ++ later } }

section Step

variable (machine : Machine)

theorem consequence_asked : machine.consequence.asked = machine.entry.reads := by
  simp only [consequence, Entry.reads, entry, instruction_eq]
  cases machine.fetched with
  | error fault => rfl
  | ok text => exact Statement.consequence_asked ..

theorem count_input : machine.consequence.events.count .input = machine.entry.reads.toNat := by
  simp only [consequence, Entry.reads, entry, instruction_eq]
  cases machine.fetched with
  | error fault => rfl
  | ok text => exact Statement.count_input ..

theorem step_requests : machine.step.1.requests = machine.requests + machine.entry.reads.toNat := by
  have reported : machine.reported.count .input = 0 := by
    apply List.count_eq_zero.mpr
    intro member
    obtain ⟨_, _, same⟩ := machine.mem_reported member
    cases same
  simp [requests, step_workspace, logged, count_input, reported]

theorem step_inputs_eq :
    machine.step.1.workspace.inputs = machine.workspace.inputs.drop machine.entry.reads.toNat := by
  rw [step_workspace, consequence_asked]
  cases machine.entry.reads with
  | false => rfl
  | true => simp

end Step

/-- Every input that was asked for was asked for by a step on record, and the rest of them is left. -/
structure Accounts (inputs : List Input) (machine : Machine) : Prop where
  requested : machine.requests = machine.trace.toList.countP Entry.reads
  remaining : machine.workspace.inputs = inputs.drop machine.requests

theorem Accounts.step {inputs : List Input} {machine : Machine} (accounts : Accounts inputs machine) :
    Accounts inputs machine.step.1 := by
  refine ⟨?_, ?_⟩
  · rcases machine.escapes_or_records with escapes | _
    · rw [step_of_escapes escapes]
      exact accounts.requested
    · rw [step_requests, step_trace, accounts.requested]
      cases reads : machine.entry.reads <;> simp [reads]
  · rw [step_inputs_eq, step_requests, accounts.remaining, List.drop_drop]

theorem load_accounts {source : Text} {inputs : List Input} {limit : Option Int} {observer : Observer} {machine : Machine}
    (loads : load source inputs limit observer = .ok machine) : Accounts inputs machine := by
  obtain ⟨program, _, rfl⟩ := load_eq_ok loads
  exact ⟨rfl, rfl⟩

theorem step_raises {machine : Machine} [machine.Records] {fault : Fault} (fails : machine.consequence.next = .error fault) :
    machine.step.2 = .error (fault.atLine machine.status.line) := by
  rw [step_raises_iff, report?_eq_some_iff, outcome_next]
  exact ⟨fault, fails, rfl⟩

/-- What becomes of an item that the next step reads. It has to be a number, and the target has to name a cell;
the item is looked at first. -/
structure Receives (machine : Machine) (target : Text) (item : Input) : Prop where
  unfit : ∀ fault, item.value = .error fault →
    machine.step.2 = .error (fault.atLine machine.status.line) ∧ machine.step.1.memory = machine.memory
  unplaced : ∀ value fault, item.value = .ok value → (Operand.ofToken target).address machine.memory = .error fault →
    machine.step.2 = .error (fault.atLine machine.status.line) ∧ machine.step.1.memory = machine.memory
  stored : ∀ value address, item.value = .ok value → (Operand.ofToken target).address machine.memory = .ok address →
    machine.step.1.memory = machine.memory.write address value

theorem consequence_of_read {machine : Machine} {target : Text}
    (reads : Statement.ofText machine.instruction = ⟨"READ".toList, [target]⟩) :
    machine.consequence = ((Command.read (.ofToken target)).performed machine.program machine.memory
      machine.workspace.observer (machine.workspace.inputs.headD .cancel)).afterAsking := by
  rw [instruction_eq] at reads
  unfold consequence
  cases fetched : machine.fetched with
  | error fault =>
    rw [fetched] at reads
    cases reads
  | ok text =>
    rw [fetched] at reads
    have read : Statement.ofText text = ⟨"READ".toList, [target]⟩ := reads
    simp only [read, Statement.consequence_read]
    rfl

theorem records_of_read {machine : Machine} {target : Text}
    (reads : Statement.ofText machine.instruction = ⟨"READ".toList, [target]⟩) : machine.Records := by
  refine ⟨?_⟩
  intro escapes
  rw [machine.instruction_of_escapes escapes] at reads
  cases reads

theorem receives_next {machine : Machine} {target : Text}
    (reads : Statement.ofText machine.instruction = ⟨"READ".toList, [target]⟩) :
    machine.Receives target (machine.workspace.inputs.headD .cancel) := by
  have consequence := consequence_of_read reads
  have := records_of_read reads
  generalize machine.workspace.inputs.headD .cancel = item at consequence ⊢
  have stepped : machine.step.1.memory = machine.consequence.memory := by
    simp only [memory, step_workspace]
  have fails {fault : Fault}
      (failed : (Command.read (.ofToken target)).effect machine.program machine.memory item = .error fault) :
      machine.step.2 = .error (fault.atLine machine.status.line) ∧ machine.step.1.memory = machine.memory := by
    simp only [Command.performed, failed] at consequence
    rw [stepped, consequence]
    exact ⟨step_raises (by rw [consequence]; rfl), rfl⟩
  refine ⟨?_, ?_, ?_⟩
  · intro fault unfit
    exact fails (bind_eq_error.mpr (.inl unfit))
  · intro value fault fit unplaced
    exact fails (bind_eq_error.mpr (.inr ⟨value, fit, bind_eq_error.mpr (.inl unplaced)⟩))
  · intro value address fit placed
    have done : (Command.read (.ofToken target)).effect machine.program machine.memory item = .ok (.store address value) :=
      bind_eq_ok.mpr ⟨value, fit, bind_eq_ok.mpr ⟨address, placed, rfl⟩⟩
    simp only [Command.performed, done] at consequence
    rw [stepped, consequence]
    exact Effect.consequence_memory ..

section Feed

variable {machine : Machine} (supplied : machine.entry.reads = true → machine.workspace.inputs ≠ []) (later : List Input)
include supplied

theorem consequence_feed : (machine.feed later).consequence = machine.consequence := by
  have fetched : (machine.feed later).fetched = machine.fetched := rfl
  simp only [Entry.reads, entry, instruction_eq] at supplied
  simp only [consequence, fetched]
  cases found : machine.fetched with
  | error fault => rfl
  | ok text =>
    rw [found] at supplied
    cases reads : (Statement.ofText text).reads with
    | false => exact Statement.consequence_of_unread _ _ _ reads _ _
    | true =>
      obtain ⟨item, rest, held⟩ := List.exists_cons_of_ne_nil (supplied reads)
      simp only [feed, held]
      rfl

theorem step_feed : (machine.feed later).step = (machine.step.1.feed later, machine.step.2) := by
  have status : (machine.feed later).status = machine.status := rfl
  have text : (machine.feed later).fetched = machine.fetched := rfl
  have consequence := consequence_feed supplied later
  have left : (if machine.consequence.asked then (machine.workspace.inputs ++ later).tail
      else machine.workspace.inputs ++ later) =
      (if machine.consequence.asked then machine.workspace.inputs.tail else machine.workspace.inputs) ++ later := by
    rw [consequence_asked]
    split
    next reads => exact List.tail_append_of_ne_nil (supplied reads)
    next => rfl
  apply Prod.ext
  · rw [step_fst_of_same status text consequence rfl, step_workspace, consequence, logged_of_same status text consequence]
    simp only [feed, left, step_program, step_limit, step_workspace machine]
  · exact step_snd_of_same status text consequence

end Feed

theorem unnoticed_feed (later : List Input) (total : Nat) :
    Unnoticed (feed later) (fun machine => machine.requests + machine.workspace.inputs.length = total) where
  finished _ := rfl
  trace _ := rfl
  step machine before after := by
    apply step_feed
    intro reads none
    rw [step_requests, step_inputs_eq, reads, none] at after
    rw [none] at before
    simp only [Bool.toNat_true, List.drop_nil, List.length_nil] at before after
    omega

theorem passes_accounts {source : Text} {inputs : List Input} {limit : Option Int} {observer : Observer}
    {start state : Machine} {calls : List Call} (loads : load source inputs limit observer = .ok start)
    (passes : start.Passes calls state) : Accounts inputs state := by
  obtain ⟨count, rfl⟩ := passes.steps
  exact steps_invariant (fun _ accounts => accounts.step) (load_accounts loads) count

/-- More inputs behind its own change nothing for a machine that does not ask beyond its own. In every state
that the calls of a driver lead through, the inputs asked for are those of the steps that read one, and the next of
these gets the next input; one that comes after the last finds its input cancelled. -/
theorem depends_on_inputs_taken {source : Text} {inputs : List Input} {limit : Option Int} {observer : Observer}
    {start : Machine} (loads : load source inputs limit observer = .ok start) :
    (∀ later, ∃ fed, load source (inputs ++ later) limit observer = .ok fed ∧
      ∀ calls, (∀ state, start.Passes calls state → state.requests ≤ inputs.length) → Mirrors (feed later) calls start fed) ∧
    ∀ calls state, start.Passes calls state → Accounts inputs state ∧
      ∀ target, Statement.ofText state.instruction = ⟨"READ".toList, [target]⟩ →
        state.Receives target (inputs.getD state.requests .cancel) ∧
        (inputs.length ≤ state.requests →
          state.step.2 = .error (Fault.inputCancelled.atLine state.status.line)) := by
  refine ⟨?_, ?_⟩
  · intro later
    obtain ⟨program, parsed, rfl⟩ := load_eq_ok loads
    refine ⟨(Machine.start program inputs limit observer).feed later, bind_eq_ok.mpr ⟨program, parsed, rfl⟩, ?_⟩
    intro calls within
    apply (unnoticed_feed later inputs.length).mirrors
    intro state passes
    have remaining := (passes_accounts loads passes).remaining
    have bound := within state passes
    rw [remaining, List.length_drop]
    omega
  · intro calls state passes
    have accounts := passes_accounts loads passes
    refine ⟨accounts, ?_⟩
    intro target reads
    have next : state.workspace.inputs.headD .cancel = inputs.getD state.requests .cancel := by
      rw [accounts.remaining]
      simp [List.headD_eq_head?_getD, List.getD_eq_getElem?_getD]
    have receives := receives_next reads
    rw [next] at receives
    refine ⟨receives, ?_⟩
    intro exhausted
    have none : inputs.getD state.requests .cancel = .cancel := by
      simp [List.getD_eq_getElem?_getD, exhausted]
    rw [none] at receives
    exact (receives.unfit _ rfl).1

-- The target is no cell, so the step fails, but the input is gone.
theorem depends_on_inputs_taken_of_misplaced_read :
    ∃ first fed final, load "READ =1".toList [.number 7] none .absent = .ok first ∧
      first.Receives "=1".toList (.number 7) ∧ load "READ =1".toList [.number 7, .number 8] none .absent = .ok fed ∧
      fed.Transcript [(.step, .raised (Fault.invalidAddress.atLine 1))] final ∧
      final.workspace.inputs = [.number 8] := by
  let reading := start (.ofLines [⟨1, "READ =1".toList, none, "READ =1".toList⟩]) [.number 7] none .absent
  have loads : load "READ =1".toList [.number 7] none .absent = .ok reading := rfl
  have transcript : reading.Transcript [(.step, .raised (Fault.invalidAddress.atLine 1))] reading.step.1 :=
    .call ⟨rfl, rfl⟩ .done
  obtain ⟨extended, traced⟩ := depends_on_inputs_taken loads
  have receives := ((traced [] reading .here).2 "=1".toList rfl).1
  obtain ⟨fed, loaded, alike⟩ := extended [.number 8]
  have within : ∀ state, reading.Passes [.step] state → state.requests ≤ 1 := by
    intro state passes
    rcases passes with _ | passes | ⟨answers, _ | _⟩
    · decide
    · rw [passes]
      decide
    · rw [answers.2]
      decide
  have same := ((alike [.step] within).transcript _ _ rfl).mpr ⟨_, transcript, rfl⟩
  exact ⟨reading, fed, _, loads, receives, loaded, same, rfl⟩

end Machine
end RandomAccess
