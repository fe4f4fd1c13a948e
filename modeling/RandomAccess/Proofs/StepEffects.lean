import RandomAccess.Machine
import RandomAccess.Proofs.CommandEffects

/-! What one step does, said once. A step has an outcome before anything is recorded of it, and the
status, the trace, the report and the log all follow from the outcome. A refused step leaves the workspace
as it was, and one that is refused with an error that cannot be put into words is not even recorded. -/

namespace RandomAccess

/-- An observer that accepts every memory it is shown. -/
def Observer.Accepting (observer : Observer) : Prop :=
  ∀ memory, ∃ seen, observer.look memory = .ok seen

theorem Observer.accepting_absent : Observer.absent.Accepting :=
  fun _ => ⟨_, rfl⟩

theorem Observer.accepting_snapshot : Observer.snapshot.Accepting :=
  fun _ => ⟨_, rfl⟩

/-- What is noted of a memory shows the memory, or is a text about it. -/
theorem Sight.mem_event? {sight : Sight} {memory : Memory} {event : Event} (member : event ∈ (sight.event? memory).toList) :
    (∃ shown, event = .memory shown) ∨ ∃ text, event = .memoryText text := by
  cases sight with
  | nothing => cases member
  | cells => exact .inl ⟨memory, List.mem_singleton.mp member⟩
  | note text => exact .inr ⟨text, List.mem_singleton.mp member⟩

theorem Observer.look_eq_ok {observer : Observer} {memory : Memory} {seen : Option Event}
    (looked : observer.look memory = .ok seen) : ∃ sight : Sight, seen = sight.event? memory := by
  unfold look at looked
  split at looked <;> cases looked
  exact ⟨_, rfl⟩

theorem Fault.worded_stepLimit_iff {limit : Int} : (stepLimit limit).Worded ↔ -(Numeral.bound : Int) < limit := by
  simp only [Worded, message?, limitText?, Option.isSome_map]
  split
  next negative =>
    rw [written?, Option.isSome_map, Numeral.text?]
    split
    next short =>
      simp only [Option.isSome_some, true_iff]
      unfold Numeral.Representable at short
      omega
    next long =>
      simp only [Option.isSome_none, Bool.false_eq_true, false_iff]
      unfold Numeral.Representable at long
      omega
  next natural =>
    simp only [counted, Option.isSome_some, true_iff]
    have positive := Numeral.bound_pos
    omega

def Event.isError : Event → Bool
  | .error _ _ => true
  | _ => false

namespace Effect

def written (effect : Effect) (memory : Memory) : Memory :=
  match effect.write? with
  | none => memory
  | some (address, value) => memory.write address value

def seen (effect : Effect) (observer : Observer) (memory : Memory) : List Event :=
  match effect.write? with
  | none => []
  | some (address, value) =>
    match observer.look (memory.write address value) with
    | .ok event? => event?.toList
    | .error _ => []

theorem mem_seen {effect : Effect} {observer : Observer} {memory : Memory} {event : Event}
    (member : event ∈ effect.seen observer memory) :
    (∃ shown, event = .memory shown) ∨ ∃ text, event = .memoryText text := by
  unfold seen at member
  split at member
  · cases member
  · split at member
    next looked =>
      obtain ⟨sight, rfl⟩ := Observer.look_eq_ok looked
      exact Sight.mem_event? member
    next => cases member

theorem seen_not_error {effect : Effect} {observer : Observer} {memory : Memory} {event : Event}
    (member : event ∈ effect.seen observer memory) : event.isError = false := by
  rcases mem_seen member with ⟨_, rfl⟩ | ⟨_, rfl⟩ <;> rfl

end Effect

namespace Workspace

variable (workspace : Workspace)

theorem emitAll_eq (lines : List String) :
    workspace.emitAll lines = { workspace with
      output := workspace.output ++ lines, events := workspace.events ++ lines.map Event.output } := by
  induction lines generalizing workspace with
  | nil => simp [emitAll]
  | cons line lines ih =>
    have rest := ih (workspace.emit line)
    simp only [emitAll, List.foldl_cons] at rest ⊢
    rw [rest]
    simp [emit]

/-- With an observer that accepts it, an effect is carried out whole. -/
theorem apply_accepted (accepts : workspace.observer.Accepting) (effect : Effect) :
    workspace.apply effect =
      ⟨⟨effect.written workspace.memory, workspace.inputs, workspace.observer, workspace.output ++ effect.output,
        workspace.events ++ (effect.seen workspace.observer workspace.memory ++ effect.output.map Event.output)⟩,
        effect.output, effect.next⟩ := by
  unfold apply Effect.written Effect.seen
  cases effect.write? with
  | none => simp [emitAll_eq]
  | some cell =>
    obtain ⟨seen, looked⟩ := accepts (workspace.memory.write cell.1 cell.2)
    cases seen <;> simp [write, looked, emitAll_eq]

/-- The workspace on which a command works: one that reads has taken its input. -/
def taken (command : Command) : Workspace :=
  if command.asks then workspace.ask.2 else workspace

@[simp]
theorem taken_memory (command : Command) : (workspace.taken command).memory = workspace.memory := by
  unfold taken
  split <;> rfl

@[simp]
theorem taken_observer (command : Command) : (workspace.taken command).observer = workspace.observer := by
  unfold taken
  split <;> rfl

def answer (command : Command) : Input :=
  if command.asks then workspace.ask.1 else .cancel

theorem execute_of_decoded {program : Program} {statement : Statement} {command : Command}
    (decoded : InstructionSet.standard.decode statement = .ok command) :
    workspace.execute .standard program statement =
      (workspace.taken command).perform program command (workspace.answer command) := by
  simp only [execute, decoded, taken, answer]
  split <;> rfl

theorem execute_of_undecoded {program : Program} {statement : Statement} {fault : Fault}
    (undecoded : InstructionSet.standard.decode statement = .error fault) :
    workspace.execute .standard program statement = ⟨workspace, [], .error fault⟩ := by
  simp only [execute, undecoded]

theorem execute_observer (program : Program) (statement : Statement) :
    (workspace.execute .standard program statement).workspace.observer = workspace.observer := by
  have applied (current : Workspace) (effect : Effect) : (current.apply effect).workspace.observer = current.observer := by
    unfold apply write
    cases effect.write? with
    | none => simp [emitAll_eq]
    | some cell =>
      dsimp only
      cases current.observer.look (current.memory.write cell.1 cell.2) with
      | error fault => rfl
      | ok event? => cases event? <;> simp [emitAll_eq]
  have performed (current : Workspace) (command : Command) (input : Input) :
      (current.perform program command input).workspace.observer = current.observer := by
    unfold perform
    split
    · exact applied current _
    · rfl
  cases decoded : InstructionSet.standard.decode statement with
  | error fault => rw [execute_of_undecoded workspace decoded]
  | ok command =>
    rw [execute_of_decoded workspace decoded, performed, taken_observer]

theorem perform_eq_ok {workspace : Workspace} {program : Program} {command : Command} {input : Input} {move : Move}
    (done : (workspace.perform program command input).next = .ok move) :
    ∃ effect, command.effect program workspace.memory input = .ok effect ∧ effect.next = .ok move := by
  unfold perform at done
  split at done
  next effect found =>
    refine ⟨effect, found, ?_⟩
    unfold apply at done
    split at done
    · exact done
    · split at done
      · exact done
      · cases done
  next => cases done

theorem execute_halts_iff {program : Program} {statement : Statement} :
    (workspace.execute .standard program statement).next = .ok .halt ↔ statement = ⟨"HALT".toList, []⟩ := by
  constructor
  · intro halts
    cases decoded : InstructionSet.standard.decode statement with
    | error fault =>
      rw [execute_of_undecoded workspace decoded] at halts
      cases halts
    | ok command =>
      rw [execute_of_decoded workspace decoded] at halts
      obtain ⟨effect, found, same⟩ := perform_eq_ok halts
      obtain rfl := Command.effect_halts found same
      rcases InstructionSet.decode_eq_ok decoded with ⟨_, impossible⟩ | ⟨written, _⟩
      · cases impossible
      · exact written.symm
  · rintro rfl
    rfl

end Workspace

namespace Machine

/-- What the next step does, before anything is recorded of it. -/
def outcome (machine : Machine) : Workspace.Outcome :=
  match fetch machine.program machine.limit machine.status with
  | .error fault => ⟨machine.workspace, [], .error fault⟩
  | .ok line => machine.workspace.execute .standard machine.program (Statement.ofText line.text)

/-- The text that the next step executes. A refused step executes none. -/
def instruction (machine : Machine) : Text :=
  match fetch machine.program machine.limit machine.status with
  | .error _ => []
  | .ok line => line.text

def report? (machine : Machine) : Option Diagnostic :=
  match machine.outcome.next with
  | .ok _ => none
  | .error fault => some (fault.atLine machine.status.line)

def entry (machine : Machine) : Entry where
  step := machine.status.stepCount
  line := machine.status.line
  instruction := machine.instruction
  before := machine.status
  after := advance machine.status machine.outcome.next
  memory := machine.outcome.workspace.memory
  output := machine.outcome.output
  error? := machine.report?

/-- The next step is refused with an error that cannot be put into words. -/
def Escapes (machine : Machine) : Prop :=
  ∃ fault, fetch machine.program machine.limit machine.status = .error fault ∧ ¬ fault.Worded

/-- The machine after a step that left nothing but an empty buffer. -/
def lapsed (machine : Machine) : Machine :=
  { machine with buffer := {} }

theorem step_of_escapes {machine : Machine} (escapes : machine.Escapes) :
    machine.step = (machine.lapsed, .error (.escaped Numeral.limitMessage)) := by
  obtain ⟨fault, refused, wordless⟩ := escapes
  simp only [step, refused, if_neg wordless]
  rfl

/-- The next step is recorded, whether it succeeds or fails. -/
class Records (machine : Machine) : Prop where
  worded : ¬ machine.Escapes

theorem escapes_or_records (machine : Machine) : machine.Escapes ∨ machine.Records := by
  by_cases escapes : machine.Escapes
  · exact .inl escapes
  · exact .inr ⟨escapes⟩

theorem records_of_fetched {machine : Machine} {line : Line}
    (fetched : fetch machine.program machine.limit machine.status = .ok line) : machine.Records := by
  refine ⟨?_⟩
  rintro ⟨fault, refused, _⟩
  rw [fetched] at refused
  cases refused

theorem records_of_worded {machine : Machine} {fault : Fault}
    (refused : fetch machine.program machine.limit machine.status = .error fault) (worded : fault.Worded) :
    machine.Records := by
  refine ⟨?_⟩
  rintro ⟨other, again, wordless⟩
  rw [refused] at again
  cases again
  exact wordless worded

theorem step_eq (machine : Machine) [records : machine.Records] :
    machine.step = ({ machine with
        status := advance machine.status machine.outcome.next
        workspace := match machine.report? with
          | none => machine.outcome.workspace
          | some diagnostic => machine.outcome.workspace.log diagnostic.event
        trace := machine.trace.push machine.entry
        buffer := ⟨machine.entry.output, true⟩ },
      match machine.report? with
      | none => .ok machine.entry
      | some diagnostic => .error diagnostic) := by
  have worded := records.worded
  obtain ⟨program, limit, status, workspace, trace, buffer⟩ := machine
  cases found : fetch program limit status with
  | error fault =>
    have worded : fault.Worded := Decidable.not_not.mp fun wordless => worded ⟨fault, found, wordless⟩
    simp [step, found, worded, conclude, outcome, report?, entry, instruction]
  | ok line =>
    simp only [step, found, conclude, outcome, report?, entry, instruction]
    cases (workspace.execute .standard program (Statement.ofText line.text)).next <;> rfl

section Step

variable (machine : Machine)

@[simp]
theorem step_program : machine.step.1.program = machine.program := by
  rcases machine.escapes_or_records with escapes | _
  · rw [step_of_escapes escapes]
    rfl
  · rw [step_eq]

@[simp]
theorem step_limit : machine.step.1.limit = machine.limit := by
  rcases machine.escapes_or_records with escapes | _
  · rw [step_of_escapes escapes]
    rfl
  · rw [step_eq]

/-- But for what is logged, a step leaves the workspace of its outcome. -/
theorem step_workspace_eq : ∃ events, machine.step.1.workspace = { machine.outcome.workspace with events } := by
  rcases machine.escapes_or_records with escapes | _
  · obtain ⟨fault, refused, _⟩ := id escapes
    refine ⟨machine.workspace.events, ?_⟩
    rw [step_of_escapes escapes]
    simp only [outcome, refused]
    rfl
  · rw [step_eq]
    cases machine.report? <;> exact ⟨_, rfl⟩

theorem step_memory : machine.step.1.workspace.memory = machine.outcome.workspace.memory := by
  obtain ⟨_, same⟩ := machine.step_workspace_eq
  rw [same]

theorem step_inputs : machine.step.1.workspace.inputs = machine.outcome.workspace.inputs := by
  obtain ⟨_, same⟩ := machine.step_workspace_eq
  rw [same]

theorem step_output : machine.step.1.workspace.output = machine.outcome.workspace.output := by
  obtain ⟨_, same⟩ := machine.step_workspace_eq
  rw [same]

theorem step_observer : machine.step.1.workspace.observer = machine.workspace.observer := by
  have kept : machine.outcome.workspace.observer = machine.workspace.observer := by
    unfold outcome
    split
    · rfl
    · exact Workspace.execute_observer ..
  obtain ⟨_, same⟩ := machine.step_workspace_eq
  rw [same]
  exact kept

variable [machine.Records]

theorem step_status : machine.step.1.status = advance machine.status machine.outcome.next := by rw [step_eq]

theorem step_trace : machine.step.1.trace = machine.trace.push machine.entry := by rw [step_eq]

theorem step_buffer : machine.step.1.buffer = ⟨machine.entry.output, true⟩ := by rw [step_eq]

end Step

theorem step_raises_iff {machine : Machine} [machine.Records] {diagnostic : Diagnostic} :
    machine.step.2 = .error diagnostic ↔ machine.report? = some diagnostic := by
  rw [step_eq]
  cases machine.report? <;> simp

theorem report?_of_raises {machine : Machine} {diagnostic : Diagnostic} (raised : machine.step.2 = .error diagnostic) :
    machine.report? = some diagnostic := by
  rcases machine.escapes_or_records with escapes | _
  · rw [step_of_escapes escapes] at raised
    cases raised
  · exact step_raises_iff.mp raised

theorem reported_of_raises {machine : Machine} [machine.Records] {failure : Failure}
    (raised : machine.step.2 = .error failure) : ∃ diagnostic, failure = .reported diagnostic := by
  rw [step_eq] at raised
  cases reports : machine.report? with
  | none => simp [reports] at raised
  | some diagnostic =>
    rw [reports] at raised
    exact ⟨diagnostic, (Except.error.inj raised).symm⟩

theorem report?_eq_some_iff {machine : Machine} {diagnostic : Diagnostic} :
    machine.report? = some diagnostic ↔
      ∃ fault, machine.outcome.next = .error fault ∧ fault.atLine machine.status.line = diagnostic := by
  unfold report?
  cases machine.outcome.next <;> simp

theorem report?_eq_none_iff {machine : Machine} :
    machine.report? = none ↔ ∃ move, machine.outcome.next = .ok move := by
  unfold report?
  cases machine.outcome.next <;> simp

theorem outcome_of_refused {machine : Machine} {fault : Fault}
    (refused : fetch machine.program machine.limit machine.status = .error fault) :
    machine.outcome = ⟨machine.workspace, [], .error fault⟩ := by
  simp only [outcome, refused]

/-- How a finished machine refuses to go on. Having halted counts before having failed. -/
def refusal (status : Status) : Fault :=
  if status.halted then .alreadyHalted else .alreadyFailed

theorem fetch_of_finished {machine : Machine} (finished : machine.status.finished = true) :
    fetch machine.program machine.limit machine.status = .error (refusal machine.status) := by
  unfold fetch refusal
  split
  · rfl
  next running =>
    have errored : machine.status.errored = true := by simpa [Status.finished, running] using finished
    simp [errored]

theorem outcome_of_finished {machine : Machine} (finished : machine.status.finished = true) :
    machine.outcome = ⟨machine.workspace, [], .error (refusal machine.status)⟩ :=
  outcome_of_refused (fetch_of_finished finished)

/-- A finished machine always says so. -/
theorem records_of_finished {machine : Machine} (finished : machine.status.finished = true) : machine.Records := by
  apply records_of_worded (fetch_of_finished finished)
  unfold refusal
  split <;> rfl

theorem outcome_halts_iff {machine : Machine} :
    machine.outcome.next = .ok .halt ↔ Statement.ofText machine.instruction = ⟨"HALT".toList, []⟩ := by
  unfold outcome instruction
  cases fetch machine.program machine.limit machine.status with
  | error fault =>
    have blank : Statement.ofText [] ≠ ⟨"HALT".toList, []⟩ := by decide
    simp only [reduceCtorEq, false_iff]
    exact blank
  | ok line => exact machine.workspace.execute_halts_iff

/-- A step limit that is not too long to be written below zero. With such a limit, or without one, every step is recorded. -/
class Worded (machine : Machine) : Prop where
  limit : ∀ most, machine.limit = some most → -(Numeral.bound : Int) < most

theorem worded_of_natural {machine : Machine} (natural : ∀ most, machine.limit = some most → 0 ≤ most) : machine.Worded where
  limit := by
    intro most limited
    have positive := Numeral.bound_pos
    have nonnegative := natural most limited
    omega

/-- Why there is no line to execute, and what is so in each case. -/
theorem fetch_eq_error {program : Program} {limit : Option Int} {status : Status} {fault : Fault}
    (refused : fetch program limit status = .error fault) :
    (fault = .alreadyHalted ∧ status.halted = true) ∨ (fault = .alreadyFailed ∧ status.errored = true) ∨
      (∃ most, fault = .stepLimit most ∧ limit = some most ∧ most ≤ status.stepCount) ∨
      (fault = .endOfProgram ∧ program.line? status.pc = none) := by
  unfold fetch at refused
  split at refused
  next halted =>
    cases refused
    exact .inl ⟨rfl, halted⟩
  split at refused
  next errored =>
    cases refused
    exact .inr (.inl ⟨rfl, errored⟩)
  split at refused
  next most reached =>
    cases refused
    obtain ⟨limited, within⟩ := Option.filter_eq_some_iff.mp reached
    exact .inr (.inr (.inl ⟨most, rfl, limited, by simpa using within⟩))
  split at refused
  · cases refused
  next past =>
    cases refused
    exact .inr (.inr (.inr ⟨rfl, past⟩))

instance (machine : Machine) [worded : machine.Worded] : machine.Records where
  worded := by
    intro escapes
    obtain ⟨fault, refused, wordless⟩ := escapes
    rcases fetch_eq_error refused with ⟨rfl, _⟩ | ⟨rfl, _⟩ | ⟨most, rfl, limited, _⟩ | ⟨rfl, _⟩
    · exact wordless rfl
    · exact wordless rfl
    · exact wordless (Fault.worded_stepLimit_iff.mpr (worded.limit most limited))
    · exact wordless rfl

instance (machine : Machine) [worded : machine.Worded] : machine.step.1.Worded where
  limit := by
    rw [step_limit]
    exact worded.limit

end Machine
end RandomAccess
