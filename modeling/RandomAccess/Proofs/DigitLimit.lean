import RandomAccess.Proofs.CounterRange
import RandomAccess.Proofs.PrintedMemory
import RandomAccess.Proofs.StepLimit

/-! Numbers grow without bound, but only so many digits can be written. A step meets that limit inside its own
errors: a number too long for the output is refused, an address too long for a message is described by its
size, and what else a report writes only counts what the machine has in store. So no step fails for a reason
that is not its own, unless a collaborator does. -/

namespace RandomAccess

namespace Fault

theorem written?_of_representable {number : Int} (short : Numeral.Representable number) :
    written? number = some (toString number) := by
  rw [written?, Numeral.text?_of_representable short, Option.map_some, Numeral.ofList_write]

theorem Worded.message?_eq {fault : Fault} (worded : fault.Worded) : fault.message? counted = some fault.message := by
  obtain ⟨text, written⟩ := Option.isSome_iff_exists.mp worded
  rw [message, written, Option.getD_some]

theorem message?_stepLimit {limit : Int} (natural : 0 ≤ limit) (short : Numeral.Representable limit) :
    (stepLimit limit).message? written? = some (stepLimit limit).message := by
  have nonnegative : ¬ limit < 0 := by omega
  simp only [message, message?, limitText?, if_neg nonnegative, written?_of_representable short, counted, Option.map_some,
    Option.getD_some]

/-- An undefined address that is too long is described by a count of its digits. -/
theorem message?_memoryUndefined {address : Int} (short : Numeral.Representable address ∨
    Numeral.Representable (Numeral.bitLength address)) :
    (memoryUndefined address).message? written? = some (memoryUndefined address).message := by
  have text : addressText? written? address = addressText? counted address := by
    unfold addressText?
    rcases short with short | short
    · rw [written?_of_representable short]
    · cases written? address with
      | some text => rfl
      | none => rw [written?_of_representable short, counted]
  have worded : (memoryUndefined address).Worded := by
    rw [Worded, message?, Option.isSome_map]
    unfold addressText?
    cases written? address <;> rfl
  rw [← worded.message?_eq, message?, message?, text]

theorem render?_atLine (fault : Fault) {line : Int} (short : Numeral.Representable line) :
    (fault.atLine line).render? written? = some (fault.atLine line).render := by
  have named : (fault.atLine line).line = some line := rfl
  simp only [Diagnostic.render?, Diagnostic.render, named, written?_of_representable short, counted, Option.map_some,
    Option.getD_some]

end Fault

theorem Numeral.representable_of_le {n : Int} {size : Nat} (natural : 0 ≤ n) (bounded : n ≤ size)
    (short : size < Numeral.bound) : Numeral.Representable n := by
  unfold Numeral.Representable
  omega

namespace Machine

/-- What a machine has in store can be counted within the digit limit: its lines, its trace, and the binary
digits of each number in its memory. -/
structure Countable (machine : Machine) : Prop where
  lines : machine.program.size + 1 < Numeral.bound
  entries : machine.trace.size < Numeral.bound
  digits : ∀ cell ∈ machine.memory.cells, Numeral.bitLength cell.2 < Numeral.bound

/-- Each number that a message writes is short, or a count of what is there. -/
theorem Arises.message?_eq {machine : Machine} {origin : Fault.Origin} {fault : Fault}
    (arises : machine.Arises origin fault) (natural : ∀ most, machine.limit = some most → 0 ≤ most)
    (counted : machine.status.stepCount ≤ machine.trace.size) (countable : machine.step.1.Countable) :
    fault.message? Fault.written? = some fault.message := by
  cases arises with
  | limited limit reached =>
    apply Fault.message?_stepLimit (natural _ limit)
    have entries := countable.entries
    have := worded_of_natural natural
    rw [step_trace, Array.size_push] at entries
    exact Numeral.representable_of_le (natural _ limit) (Int.le_trans reached counted) (by omega)
  | command _ fails =>
    cases fails with
    | memoryUndefined known =>
      apply Fault.message?_memoryUndefined
      apply known.imp_right
      intro held
      obtain ⟨address, held⟩ := held
      rw [← step_memory] at held
      have digits := countable.digits _ (Memory.get?_eq_some_iff.mp held)
      exact Numeral.representable_of_le (by omega) (Int.le_refl _) digits
    | _ => rfl
  | _ => rfl

theorem Arises.internal {machine : Machine} {origin : Fault.Origin} {fault : Fault} (arises : machine.Arises origin fault)
    (answers : ∀ input ∈ machine.workspace.inputs, ∀ reason, input ≠ .refuse reason)
    (accepts : machine.workspace.observer.Accepting) : origin ≠ .collaborator := by
  cases arises with
  | command given fails =>
    cases fails with
    | refused refuses =>
      subst refuses
      rcases given with given | impossible
      · exact absurd rfl (answers _ given _)
      · cases impossible
    | _ => simp
  | observed refuses => exact absurd accepts refuses
  | _ => simp

theorem outcome_output {machine : Machine} {line : String} (member : line ∈ machine.outcome.output) :
    line ∈ Command.haltMessages ∨ ∃ value, Numeral.Representable value ∧ line = String.ofList (Numeral.write value) := by
  unfold outcome at member
  split at member
  · cases member
  next fetched _ =>
    cases decoded : InstructionSet.standard.decode (Statement.ofText fetched.text) with
    | error fault =>
      rw [Workspace.execute_of_undecoded _ decoded] at member
      cases member
    | ok command =>
      rw [Workspace.execute_of_decoded _ decoded] at member
      unfold Workspace.perform at member
      split at member
      next effect done => exact Command.effect_output done (Workspace.mem_of_mem_apply_output member)
      next => cases member

theorem step_inputs_suffix (machine : Machine) {inputs : List Input} (kept : machine.workspace.inputs <:+ inputs) :
    machine.step.1.workspace.inputs <:+ inputs := by
  rw [step_inputs]
  exact machine.outcome_frame.inputs.trans kept

/-- The fault of a step that is its own, and that is written within the digit limit. -/
structure Contained (machine : Machine) (origin : Fault.Origin) (fault : Fault) : Prop where
  raised : machine.step.2 = .error (fault.atLine machine.status.line)
  arises : machine.Arises origin fault
  internal : origin ≠ .collaborator
  inRange : ∀ reason, fault ≠ .outOfRange reason
  afterLoading : fault.kind ≠ .invalidLabel
  written : machine.step.1.Countable → fault.message? Fault.written? = some fault.message ∧
    (fault.atLine machine.status.line).render? Fault.written? = some (fault.atLine machine.status.line).render

theorem Arises.contained {machine : Machine} {origin : Fault.Origin} {fault : Fault} (arises : machine.Arises origin fault)
    (raised : machine.step.2 = .error (fault.atLine machine.status.line)) (internal : origin ≠ .collaborator)
    (stands : machine.OnProgram) (natural : ∀ most, machine.limit = some most → 0 ≤ most)
    (counted : machine.status.stepCount ≤ machine.trace.size) : machine.Contained origin fault := by
  refine ⟨raised, arises, internal, ?_, ?_, ?_⟩
  · rintro reason rfl
    cases arises with
    | command _ fails =>
      cases fails
      exact internal rfl
    | observed => exact internal rfl
  · intro kind
    cases arises with
    | command _ fails => cases fails <;> cases kind
    | _ => cases kind
  · intro countable
    refine ⟨arises.message?_eq natural counted countable, ?_⟩
    obtain ⟨positive, bounded⟩ := stands.numbers
    have lines := countable.lines
    rw [step_program] at lines
    exact fault.render?_atLine (Numeral.representable_of_le (by omega) bounded lines)

/-- In every state that a driver can reach, with inputs that come and an observer that accepts, a step
succeeds or fails with a fault of its own, and keeps to the digit limit in what it puts out and reports. -/
theorem digit_limit_contained {source : Text} {inputs : List Input} {limit : Option Int} {observer : Observer}
    {start machine : Machine} {calls : List Call} (loads : load source inputs limit observer = .ok start)
    (answers : ∀ input ∈ inputs, ∀ reason, input ≠ .refuse reason) (accepts : observer.Accepting)
    (natural : ∀ most, limit = some most → 0 ≤ most) (driven : start.Driven calls machine) :
    (∃ entry, machine.step.2 = .ok entry ∧ ∀ line ∈ entry.output, line ∈ Command.haltMessages ∨
      ∃ value, Numeral.Representable value ∧ line = String.ofList (Numeral.write value)) ∨
    ∃ origin fault, machine.Contained origin fault := by
  have fresh := load_fresh loads
  obtain ⟨program, _, rfl⟩ := load_eq_ok loads
  have := worded_of_natural (show ∀ most, (start program inputs limit observer).limit = some most → 0 ≤ most from natural)
  have stands : machine.OnProgram := driven.invariant step_onProgram (start_onProgram program inputs limit observer)
  have remaining : machine.workspace.inputs <:+ inputs :=
    driven.invariant (fun machine => step_inputs_suffix machine) (List.suffix_refl inputs)
  obtain ⟨count, reached⟩ := driven.steps
  have observed : machine.workspace.observer.Accepting := by
    rw [reached, steps_observer]
    exact accepts
  have limited : ∀ most, machine.limit = some most → 0 ≤ most := by
    rw [reached, steps_limit]
    exact natural
  have := worded_of_natural limited
  have counted : machine.status.stepCount ≤ machine.trace.size := by
    rw [reached, fresh.trace_size]
    exact fresh.stepCount_le count
  cases made : machine.outcome.next with
  | ok move =>
    have succeeds := report?_eq_none_iff.mpr ⟨move, made⟩
    refine .inl ⟨machine.entry, ?_, fun line member => outcome_output member⟩
    rw [step_eq, succeeds]
  | error fault =>
    have raised := step_raises_iff.mpr (report?_eq_some_iff.mpr ⟨fault, made, rfl⟩)
    obtain ⟨origin, arises⟩ := arises_of_fails made
    have internal := arises.internal (fun input member => answers input (remaining.subset member)) observed
    exact .inr ⟨origin, fault, arises.contained raised internal stands limited counted⟩

/-- A number of 4301 digits used as an address: the message gives its size instead. -/
theorem digit_limit_contained_of_long_address :
    ∃ start machine, load "READ 1\nWRITE *1".toList [.number Numeral.bound] (some 5) .snapshot = .ok start ∧
      start.Driven [.step] machine ∧ machine.memory.cells = [(1, (Numeral.bound : Int))] ∧
      ∃ origin fault, machine.Contained origin fault ∧
        fault.message? Fault.written? = some "Memory <14285-bit address> is not defined" := by
  let reading := start (.ofLines [⟨1, "READ 1".toList, none, "READ 1".toList⟩,
    ⟨2, "WRITE *1".toList, none, "WRITE *1".toList⟩]) [.number Numeral.bound] (some 5) .snapshot
  have loads : load "READ 1\nWRITE *1".toList [.number Numeral.bound] (some 5) .snapshot = .ok reading := rfl
  have := load_worded loads (by decide +kernel)
  have driven : reading.Driven [.step] (reading.steps 1) := Driven.start.call .step
  have accepts := Observer.accepting_snapshot
  have raised : (reading.steps 1).step.2 =
      .error (.reported ⟨.memoryUndefined, "Memory <14285-bit address> is not defined", some 2⟩) :=
    step_raises_iff.mpr (by decide +kernel)
  have countable : (reading.steps 1).step.1.Countable :=
    ⟨by decide +kernel, by decide +kernel, by decide +kernel⟩
  have answers : ∀ input ∈ [Input.number Numeral.bound], ∀ reason, input ≠ .refuse reason := by
    intro input member reason refuses
    rw [List.mem_singleton.mp member] at refuses
    cases refuses
  refine ⟨reading, _, loads, driven, rfl, ?_⟩
  rcases digit_limit_contained loads answers accepts (by simp) driven with ⟨entry, succeeds, _⟩ | ⟨origin, fault, contained⟩
  · rw [succeeds] at raised
    cases raised
  · have same := congrArg Diagnostic.message (Failure.reported.inj (Except.error.inj (contained.raised.symm.trans raised)))
    refine ⟨origin, fault, contained, ?_⟩
    rw [(contained.written countable).1]
    exact congrArg some same

end Machine
end RandomAccess
