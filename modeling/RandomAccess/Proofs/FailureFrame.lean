import RandomAccess.Proofs.DriverCalls

/-! What a failing step may change. It consumes at most one input, and only to read it, and it writes at
most one cell, and only for a subtracting jump that cannot find where to go. Besides these it marks the run
as failed, records the step and reports the error once, unless the step limit cannot be put into words. -/

namespace RandomAccess

/-- The statement is a subtracting jump whose operands resolve: the address of the first one, and the
difference of the two, which is zero for two tokens of one spelling. -/
def Statement.Subtracts (statement : Statement) (memory : Memory) (address difference : Int) : Prop :=
  ∃ target other label, statement = ⟨"SJ".toList, [target, other, label]⟩ ∧
    (Operand.ofToken target).address memory = .ok address ∧
    (target = other ∧ difference = 0 ∨
      target ≠ other ∧ ∃ left right, (Operand.ofToken target).value memory = .ok left ∧
        (Operand.ofToken other).value memory = .ok right ∧ difference = left - right)

theorem Command.difference_eq_ok_iff {target other : Text} {memory : Memory} {value : Int} :
    Command.difference (.ofToken target) (.ofToken other) memory = .ok value ↔
      target = other ∧ value = 0 ∨
      target ≠ other ∧ ∃ left right, (Operand.ofToken target).value memory = .ok left ∧
        (Operand.ofToken other).value memory = .ok right ∧ value = left - right := by
  unfold Command.difference
  simp only [Operand.ofToken_token]
  split
  next same => simp [same, eq_comm]
  next different =>
    simp only [bind_eq_ok, different, false_and, false_or]
    constructor
    · intro subtracted
      obtain ⟨left, first, right, second, same⟩ := subtracted
      cases same
      exact ⟨different, left, right, first, second, rfl⟩
    · rintro ⟨_, left, right, first, second, rfl⟩
      exact ⟨left, first, right, second, rfl⟩

/-- A statement that subtracts is a command with that write, however its jump turns out. -/
theorem Statement.Subtracts.effect {statement : Statement} {memory : Memory} {address difference : Int}
    (subtracts : statement.Subtracts memory address difference) (program : Program) (input : Input) :
    ∃ command effect, InstructionSet.standard.decode statement = .ok command ∧ command.asks = false ∧
      command.effect program memory input = .ok effect ∧ effect.write? = some (address, difference) ∧ effect.output = [] := by
  obtain ⟨target, other, label, rfl, resolved, result⟩ := subtracts
  refine ⟨.subtractJump (.ofToken target) (.ofToken other) label, _, rfl, rfl,
    bind_eq_ok.mpr ⟨address, resolved, bind_eq_ok.mpr ⟨difference, ?_, rfl⟩⟩, rfl, rfl⟩
  exact Command.difference_eq_ok_iff.mpr result

/-- Of all commands only those that subtract can fail once their effect is known. -/
theorem Statement.subtracts_of_fails_late {statement : Statement} {command : Command} {program : Program}
    {memory : Memory} {input : Input} {effect : Effect} {fault : Fault}
    (decoded : InstructionSet.standard.decode statement = .ok command)
    (done : command.effect program memory input = .ok effect) (failed : effect.next = .error fault) :
    ∃ address difference, statement.Subtracts memory address difference := by
  obtain ⟨target, other, label, address, value, rfl, resolved, subtracted, _⟩ := Command.effect_fails_late done failed
  rcases InstructionSet.decode_eq_ok decoded with ⟨_, impossible⟩ | ⟨written, ⟨targetFormed, otherFormed⟩, _⟩
  · cases impossible
  · rw [targetFormed] at resolved
    rw [targetFormed, otherFormed] at subtracted
    exact ⟨address, value, target.token, other.token, label, written.symm, resolved,
      Command.difference_eq_ok_iff.mp subtracted⟩

namespace Workspace

structure Failing (before after : Workspace) (statement : Statement) : Prop where
  output : after.output = before.output
  events : ∃ seen : List Event, after.events = before.events ++ seen ∧ ∀ event ∈ seen, event.isError = false
  inputs : after.inputs = before.inputs ∨
    ∃ target, statement = ⟨"READ".toList, [target]⟩ ∧ after.inputs = before.inputs.tail
  memory : (¬ ∃ address difference, statement.Subtracts before.memory address difference) ∧ after.memory = before.memory ∨
    ∃ address difference, statement.Subtracts before.memory address difference ∧
      after.memory = before.memory.write address difference

variable {workspace : Workspace} {program : Program} {statement : Statement} {fault : Fault}

theorem execute_subtracts (accepts : workspace.observer.Accepting) {address difference : Int}
    (subtracts : statement.Subtracts workspace.memory address difference) :
    Failing workspace (workspace.execute .standard program statement).workspace statement := by
  obtain ⟨command, effect, decoded, silent, done, written, output⟩ := subtracts.effect program .cancel
  have taken : workspace.taken command = workspace := by simp [Workspace.taken, silent]
  have answer : workspace.answer command = .cancel := by simp [Workspace.answer, silent]
  rw [execute_of_decoded workspace decoded, taken, answer, perform, done]
  dsimp only
  rw [apply_accepted workspace accepts]
  refine ⟨by simp [output], ⟨effect.seen workspace.observer workspace.memory, by simp [output], ?_⟩, .inl rfl, .inr ?_⟩
  · intro event member
    exact Effect.seen_not_error member
  · exact ⟨address, difference, subtracts, by simp [Effect.written, written]⟩

theorem taken_failing {command : Command} (decoded : InstructionSet.standard.decode statement = .ok command)
    (whole : ¬ ∃ address difference, statement.Subtracts workspace.memory address difference) :
    Failing workspace (workspace.taken command) statement := by
  unfold taken
  cases asks : command.asks with
  | false => exact ⟨rfl, ⟨[], by simp, by simp⟩, .inl rfl, .inl ⟨whole, rfl⟩⟩
  | true =>
    obtain ⟨target, same⟩ := InstructionSet.decode_asks decoded asks
    exact ⟨rfl, ⟨[.input], by simp [ask], by simp [Event.isError]⟩, .inr ⟨target, same, rfl⟩, .inl ⟨whole, rfl⟩⟩

theorem execute_fails (accepts : workspace.observer.Accepting)
    (failed : (workspace.execute .standard program statement).next = .error fault) :
    Failing workspace (workspace.execute .standard program statement).workspace statement := by
  by_cases subtracts : ∃ address difference, statement.Subtracts workspace.memory address difference
  · obtain ⟨address, difference, subtracts⟩ := subtracts
    exact execute_subtracts accepts subtracts
  · cases decoded : InstructionSet.standard.decode statement with
    | error fault =>
      rw [execute_of_undecoded workspace decoded]
      exact ⟨rfl, ⟨[], by simp, by simp⟩, .inl rfl, .inl ⟨subtracts, rfl⟩⟩
    | ok command =>
      have frame := taken_failing decoded subtracts
      have accepts : (workspace.taken command).observer.Accepting := by rwa [taken_observer]
      rw [execute_of_decoded workspace decoded, perform] at failed ⊢
      cases done : command.effect program (workspace.taken command).memory (workspace.answer command) with
      | error fault => exact frame
      | ok effect =>
        simp only [done, apply_accepted _ accepts] at failed
        rw [taken_memory] at done
        exact absurd (Statement.subtracts_of_fails_late decoded done failed) subtracts

end Workspace

namespace Machine

/-- What a step that raised an error has changed. -/
structure FailureFrame (before after : Machine) (diagnostic : Diagnostic) : Prop where
  status : after.status = { before.status with errored := true }
  output : after.workspace.output = before.workspace.output
  trace : ∃ entry, after.trace = before.trace.push entry ∧ entry.error? = some diagnostic ∧
    entry.line = before.status.pc + 1 ∧ entry.memory = after.workspace.memory
  reported : ∃ seen : List Event, after.workspace.events = before.workspace.events ++ seen ∧
    seen.filter Event.isError = [.error (before.status.pc + 1) diagnostic.message]
  inputs : after.workspace.inputs = before.workspace.inputs ∨
    ∃ target, Statement.ofText before.instruction = ⟨"READ".toList, [target]⟩ ∧
      after.workspace.inputs = before.workspace.inputs.tail
  /-- The memory is as it was, unless the line subtracts: then it differs in one cell. -/
  memory : (¬ ∃ address difference, (Statement.ofText before.instruction).Subtracts before.workspace.memory address difference) ∧
      after.workspace.memory = before.workspace.memory ∨
    ∃ address difference, (Statement.ofText before.instruction).Subtracts before.workspace.memory address difference ∧
      ∀ key, after.workspace.memory.get? key = if key = address then some difference else before.workspace.memory.get? key

theorem outcome_fails {machine : Machine} {fault : Fault} (accepts : machine.workspace.observer.Accepting)
    (failed : machine.outcome.next = .error fault) :
    Workspace.Failing machine.workspace machine.outcome.workspace (Statement.ofText machine.instruction) := by
  unfold outcome at failed ⊢
  unfold instruction
  cases found : fetch machine.program machine.limit machine.status with
  | error fault =>
    refine ⟨rfl, ⟨[], by simp, by simp⟩, .inl rfl, .inl ⟨?_, rfl⟩⟩
    intro subtracts
    obtain ⟨_, _, _, _, _, impossible, _⟩ := subtracts
    cases impossible
  | ok line =>
    simp only [found] at failed ⊢
    exact Workspace.execute_fails accepts failed

theorem step_fails {machine : Machine} [machine.Records] {diagnostic : Diagnostic}
    (accepts : machine.workspace.observer.Accepting) (raised : machine.step.2 = .error diagnostic) :
    FailureFrame machine machine.step.1 diagnostic := by
  have reports := step_raises_iff.mp raised
  obtain ⟨fault, failed, same⟩ := report?_eq_some_iff.mp reports
  have frame := outcome_fails accepts failed
  constructor
  · rw [step_status, failed]
    rfl
  · rw [step_output]
    exact frame.output
  · exact ⟨machine.entry, step_trace machine, reports, rfl, (step_memory machine).symm⟩
  · obtain ⟨seen, events, quiet⟩ := frame.events
    have event : diagnostic.event = .error (machine.status.pc + 1) diagnostic.message := by
      subst same
      rfl
    refine ⟨seen ++ [diagnostic.event], ?_, ?_⟩
    · rw [step_eq, reports]
      simp only [Workspace.log, events]
      exact Array.ext' (by simp)
    · have unseen : seen.filter Event.isError = [] := by
        apply List.filter_eq_nil_iff.mpr
        intro event member
        simp [quiet event member]
      rw [List.filter_append, unseen, event]
      rfl
  · rw [step_inputs]
    exact frame.inputs
  · rw [step_memory]
    rcases frame.memory with unchanged | ⟨address, difference, subtracts, written⟩
    · exact .inl unchanged
    · refine .inr ⟨address, difference, subtracts, ?_⟩
      intro key
      rw [written, Memory.get?_write]

/-- In every state that a driver can reach, a step that raises an error keeps to the frame, exactly if the step limit is not
too long to be written. With such a limit the error escapes: the step is not recorded, it is not reported, and the run
does not count as failed. -/
theorem failing_step_frame {source : Text} {inputs : List Input} {limit : Option Int} {observer : Observer}
    {start machine : Machine} {calls : List Call} {failure : Failure}
    (loads : load source inputs limit observer = .ok start) (accepts : observer.Accepting)
    (driven : start.Driven calls machine) (raised : machine.step.2 = .error failure) :
    ((∃ diagnostic : Diagnostic, failure = diagnostic ∧ FailureFrame machine machine.step.1 diagnostic) ↔
      ∀ most, limit = some most → -(Numeral.bound : Int) < most) ∧
    ∀ most, limit = some most → most ≤ -(Numeral.bound : Int) →
      failure = .escaped Numeral.limitMessage ∧ machine.step.1 = machine.lapsed := by
  have escaped (most : Int) (limited : limit = some most) (long : most ≤ -(Numeral.bound : Int)) :
      failure = .escaped Numeral.limitMessage ∧ machine.step.1 = machine.lapsed := by
    have escapes : machine.Escapes := by
      have first := load_escapes loads limited long
      rcases driven.of_escapes first with rfl | rfl <;> exact first
    rw [step_of_escapes escapes] at raised ⊢
    exact ⟨(Except.error.inj raised).symm, rfl⟩
  refine ⟨⟨?_, ?_⟩, escaped⟩
  · rintro ⟨diagnostic, reported, _⟩ most limited
    apply Int.not_le.mp
    intro long
    have other := (escaped most limited long).1
    rw [reported] at other
    cases other
  · intro short
    have worded := load_worded loads short
    obtain ⟨program, _, rfl⟩ := load_eq_ok loads
    obtain ⟨count, rfl⟩ := driven.steps
    obtain ⟨diagnostic, rfl⟩ := reported_of_raises raised
    exact ⟨diagnostic, rfl, step_fails (by rwa [steps_observer]) raised⟩

/-- A subtracting jump that has stored its zero and finds no label. -/
theorem failing_step_frame_of_lost_label :
    ∃ start machine, ∃ diagnostic : Diagnostic,
      load "LOAD =5\nSTORE 1\nSJ 1,=5,gone".toList [] none .snapshot = .ok start ∧
      start.Driven [.step, .step] machine ∧ machine.step.2 = .error diagnostic ∧ diagnostic.kind = .labelNotFound ∧
      machine.workspace.memory.get? 1 = some 5 ∧ machine.step.1.workspace.memory.get? 1 = some 0 ∧
      FailureFrame machine machine.step.1 diagnostic := by
  let losing := start (.ofLines [⟨1, "LOAD =5".toList, none, "LOAD =5".toList⟩,
    ⟨2, "STORE 1".toList, none, "STORE 1".toList⟩, ⟨3, "SJ 1,=5,gone".toList, none, "SJ 1,=5,gone".toList⟩])
    [] none .snapshot
  have loads : load "LOAD =5\nSTORE 1\nSJ 1,=5,gone".toList [] none .snapshot = .ok losing := rfl
  have driven : losing.Driven [.step, .step] (losing.steps 2) := (Driven.start.call .step).call .step
  have raised : (losing.steps 2).step.2 = .error ((Fault.labelNotFound "gone".toList).atLine 3) := rfl
  obtain ⟨_, same, frame⟩ := (failing_step_frame loads Observer.accepting_snapshot driven raised).1.mpr nofun
  obtain rfl := Failure.reported.inj same
  have before : (losing.steps 2).workspace.memory.get? 1 = some 5 := by decide +kernel
  have after : (losing.steps 2).step.1.workspace.memory.get? 1 = some 0 := by decide +kernel
  exact ⟨losing, _, _, loads, driven, raised, rfl, before, after, frame⟩

/-- A limit with one digit too many: the first step raises an error, but the run goes on as if nothing had happened. -/
theorem failing_step_unrecorded :
    ∃ start, load "HALT".toList [] (some (-Numeral.bound)) .absent = .ok start ∧
      start.step.2 = .error (.escaped Numeral.limitMessage) ∧ start.step.1.status.errored = false ∧
      start.step.1.trace = #[] ∧ start.step.1.workspace.events = start.workspace.events ∧
      ¬ ∃ diagnostic, FailureFrame start start.step.1 diagnostic := by
  let limited := start (.ofLines [⟨1, "HALT".toList, none, "HALT".toList⟩]) [] (some (-Numeral.bound)) .absent
  have loads : load "HALT".toList [] (some (-Numeral.bound)) .absent = .ok limited := rfl
  have escapes : limited.Escapes := load_escapes loads rfl (Int.le_refl _)
  refine ⟨limited, loads, ?_⟩
  rw [step_of_escapes escapes]
  refine ⟨rfl, rfl, rfl, rfl, ?_⟩
  intro framed
  obtain ⟨diagnostic, frame⟩ := framed
  exact absurd (congrArg Status.errored frame.status) (by decide)

end Machine
end RandomAccess
