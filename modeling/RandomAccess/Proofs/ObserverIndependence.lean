import RandomAccess.Proofs.PrintedMemory
import RandomAccess.Proofs.StepAttempts
import RandomAccess.Proofs.TraceLifecycle

/-! Observers have no influence on a run. Whatever looks at the memory, the machine does what it does unobserved, and
logs the same but for the looks, as long as the observer accepts what it sees. It follows the run up to the first write
that makes a memory it refuses, and there the step fails, with that write made. One that writes the memory as a table
refuses numbers that are too long. -/

namespace RandomAccess

/-- What an observer of the memory reports. -/
def Event.ofMemory : Event → Bool
  | .memory _ | .memoryText _ => true
  | _ => false

namespace Observer

variable {observer : Observer} {memory : Memory}

def Accepts (observer : Observer) (memory : Memory) : Prop :=
  ∃ seen, observer.look memory = .ok seen

theorem accepts_snapshot (memory : Memory) : snapshot.Accepts memory :=
  accepting_snapshot memory

theorem accepts_table_iff : table.Accepts memory ↔ memory.Representable := by
  rw [← Memory.isSome_tableText?_iff]
  cases written : memory.tableText? <;> simp [Accepts, look, table, written]

theorem look_of_not_accepts (refuses : ¬ observer.Accepts memory) :
    ∃ reason, observer.view memory = .error reason ∧ observer.look memory = .error (.outOfRange reason) := by
  unfold Accepts look at refuses
  unfold look
  cases viewed : observer.view memory with
  | ok sight => simp [viewed] at refuses
  | error reason => exact ⟨reason, rfl, rfl⟩

theorem reason_of_table {reason : String} (refused : table.view memory = .error reason) : reason = Numeral.limitMessage := by
  unfold table at refused
  dsimp only at refused
  split at refused <;> cases refused
  rfl

end Observer

/-- What is left of a consequence when the reports of the memory are left out. -/
def Consequence.unobserved (consequence : Consequence) : Consequence :=
  { consequence with events := consequence.events.filter (!·.ofMemory) }

namespace Effect

variable {effect : Effect} {observer : Observer} {memory : Memory}

theorem filter_seen : (effect.seen observer memory).filter (!·.ofMemory) = [] := by
  apply List.filter_eq_nil_iff.mpr
  intro event member
  rcases mem_seen member with ⟨_, rfl⟩ | ⟨_, rfl⟩ <;> simp [Event.ofMemory]

theorem refusal?_of_accepts (accepts : observer.Accepts (effect.written memory)) : effect.refusal? observer memory = none := by
  simp only [refusal?, written] at accepts ⊢
  cases writes : effect.write? with
  | none => rfl
  | some cell =>
    simp only [writes] at accepts ⊢
    obtain ⟨seen, looked⟩ := accepts
    rw [looked]

theorem consequence_unobserved (accepts : observer.Accepts (effect.written memory)) :
    effect.consequence .absent memory = (effect.consequence observer memory).unobserved := by
  have always : Observer.absent.Accepts (effect.written memory) := ⟨none, rfl⟩
  have blind : effect.seen .absent memory = [] := by
    simp only [seen]
    cases effect.write? <;> rfl
  have kept : (effect.output.map Event.output).filter (!·.ofMemory) = effect.output.map Event.output := by
    apply List.filter_eq_self.mpr
    intro event member
    obtain ⟨line, _, rfl⟩ := List.mem_map.mp member
    rfl
  simp only [consequence, refusal?_of_accepts accepts, refusal?_of_accepts always, Consequence.unobserved, blind,
    List.filter_append, filter_seen, kept]

/-- An observer that accepted the memory before a step, and not the one after it, has been shown a write. -/
theorem consequence_of_refused (before : observer.Accepts memory) (refuses : ¬ observer.Accepts (effect.written memory)) :
    ∃ address value reason, observer.view (memory.write address value) = .error reason ∧
      effect.consequence observer memory =
        { memory := memory.write address value, next := .error (.outOfRange reason) } := by
  cases writes : effect.write? with
  | none =>
    simp only [written, writes] at refuses
    exact absurd before refuses
  | some cell =>
    obtain ⟨address, value⟩ := cell
    simp only [written, writes] at refuses
    obtain ⟨reason, refused, looked⟩ := Observer.look_of_not_accepts refuses
    refine ⟨address, value, reason, refused, ?_⟩
    simp only [consequence, refusal?, written, writes, looked]

end Effect

namespace Consequence

variable {attempt : Except Fault Effect} {observer : Observer} {memory : Memory}

theorem ofAttempt_memory_eq (other : Observer) :
    (ofAttempt attempt other memory).memory = (ofAttempt attempt observer memory).memory := by
  cases attempt with
  | error fault => rfl
  | ok effect => exact (effect.consequence_memory other memory).trans (effect.consequence_memory observer memory).symm

theorem ofAttempt_unobserved (accepts : observer.Accepts (ofAttempt attempt observer memory).memory) :
    ofAttempt attempt .absent memory = (ofAttempt attempt observer memory).unobserved := by
  cases attempt with
  | error fault => rfl
  | ok effect =>
    simp only [ofAttempt, Effect.consequence_memory] at accepts
    exact Effect.consequence_unobserved accepts

theorem ofAttempt_of_refused (before : observer.Accepts memory)
    (refuses : ¬ observer.Accepts (ofAttempt attempt observer memory).memory) :
    ∃ address value reason, observer.view (memory.write address value) = .error reason ∧
      ofAttempt attempt observer memory =
        { memory := memory.write address value, next := .error (.outOfRange reason) } := by
  cases attempt with
  | error fault => exact absurd before refuses
  | ok effect =>
    simp only [ofAttempt, Effect.consequence_memory] at refuses
    exact Effect.consequence_of_refused before refuses

theorem asking_unobserved (consequence : Consequence) (asked : Bool) :
    consequence.unobserved.asking asked = (consequence.asking asked).unobserved := by
  cases asked <;> rfl

end Consequence

namespace Machine

/-- The machine without its observer, and without what that has reported. -/
def unobserved (machine : Machine) : Machine :=
  { machine with workspace := { machine.workspace with
      observer := .absent, events := machine.workspace.events.filter (!·.ofMemory) } }

section Step

variable {machine : Machine}

/-- What a step writes is not up to the observer. -/
theorem unobserved_step_memory : machine.unobserved.step.1.memory = machine.step.1.memory := by
  rw [memory_step, memory_step]
  exact Consequence.ofAttempt_memory_eq ..

variable (accepts : machine.workspace.observer.Accepts machine.step.1.memory)
include accepts

theorem consequence_unobserved : machine.unobserved.consequence = machine.consequence.unobserved := by
  rw [memory_step] at accepts
  rw [consequence_eq, consequence_eq machine, ← Consequence.asking_unobserved, ← Consequence.ofAttempt_unobserved accepts]
  rfl

theorem step_unobserved : machine.unobserved.step = (machine.step.1.unobserved, machine.step.2) := by
  have consequence := consequence_unobserved accepts
  rcases machine.escapes_or_records with escapes | _
  · have again : machine.unobserved.Escapes := escapes
    rw [step_of_escapes escapes, step_of_escapes again]
    rfl
  have := records_of_same (show machine.unobserved.fetched = machine.fetched from rfl)
  have report : machine.unobserved.report? = machine.report? := by
    simp only [report?, outcome_next, consequence]
    rfl
  have entry : machine.unobserved.entry = machine.entry := by
    simp only [Machine.entry, outcome_eq, Consequence.outcome, consequence, report]
    rfl
  have answer : machine.unobserved.step.2 = machine.step.2 := by
    rw [step_snd, step_snd, report, entry]
  have reported : machine.reported.filter (!·.ofMemory) = machine.reported := by
    apply List.filter_eq_self.mpr
    intro event member
    obtain ⟨line, message, rfl⟩ := machine.mem_reported member
    rfl
  have logged : (machine.workspace.events ++ machine.logged).filter (!·.ofMemory) =
      machine.workspace.events.filter (!·.ofMemory) ++ machine.unobserved.logged := by
    have same : machine.unobserved.reported = machine.reported := by
      rw [Machine.reported, Machine.reported, answer]
    apply Array.ext'
    simp [Machine.logged, consequence, Consequence.unobserved, reported, same]
  apply Prod.ext
  · rw [step_fst, step_fst machine, step_workspace, step_workspace machine, consequence, entry]
    simp only [unobserved, logged]
    rfl
  · exact answer

end Step

/-- The observer accepts the memory as it is. -/
def Accepted (machine : Machine) : Prop :=
  machine.workspace.observer.Accepts machine.memory

theorem unnoticed_unobserved : Unnoticed unobserved Accepted where
  finished _ := rfl
  trace _ := rfl
  step machine _ after := by
    rw [Accepted, step_observer] at after
    exact step_unobserved after

/-- A step that its observer has interrupted, for a reason. The write has been made, the same as without the observer,
and nothing else has. -/
structure Interrupted (machine : Machine) (reason : String) : Prop where
  refused : machine.workspace.observer.view machine.step.1.memory = .error reason
  raised : machine.step.2 =
    .error (.reported ⟨.invalidOperand, "Value out of range: " ++ reason, some machine.status.line⟩)
  status : machine.step.1.status = { machine.status with errored := true }
  output : machine.step.1.workspace.output = machine.workspace.output
  memory : ∃ address value, machine.step.1.memory = machine.memory.write address value ∧
    machine.unobserved.step.1.memory = machine.memory.write address value

theorem interrupted_of_refused {machine : Machine} (before : machine.Accepted) (refuses : ¬ machine.step.1.Accepted) :
    ∃ reason, machine.Interrupted reason := by
  rcases machine.escapes_or_records with escapes | _
  · rw [step_of_escapes escapes] at refuses
    exact absurd before refuses
  rw [Accepted, step_observer, memory_step] at refuses
  obtain ⟨address, value, reason, refused, same⟩ := Consequence.ofAttempt_of_refused before refuses
  have next : machine.consequence.next = .error (.outOfRange reason) := by
    rw [consequence_eq, Consequence.asking_next, same]
  have written : machine.step.1.memory = machine.memory.write address value := by
    rw [memory_step, same]
  refine ⟨reason, by rw [written, refused], step_raises next, ?_, ?_, address, value, written, ?_⟩
  · rw [step_fst, next]
    rfl
  · rw [step_workspace, consequence_eq, Consequence.asking_output, same]
    simp
  · rw [unobserved_step_memory, written]

theorem accepted_or_errored {machine : Machine} (initial : machine.Accepted) (count : Nat) :
    (machine.steps count).Accepted ∨ (machine.steps count).status.errored = true := by
  induction count with
  | zero => exact .inl initial
  | succ count ih =>
    rcases ih with accepted | errored
    · by_cases accepts : (machine.steps count).step.1.Accepted
      · exact .inl accepts
      · obtain ⟨reason, interrupted⟩ := interrupted_of_refused accepted accepts
        apply Or.inr
        rw [steps, interrupted.status]
    · apply Or.inr
      have finished : (machine.steps count).status.finished = true := by simp [Status.finished, errored]
      exact (settled_step finished).errored errored

/-- A memory that was once not accepted stays, so it has been accepted as long as it is. -/
theorem Accepted.earlier {machine : Machine} (initial : machine.Accepted) {early late : Nat} (order : early ≤ late)
    (later : (machine.steps late).Accepted) : (machine.steps early).Accepted := by
  rcases accepted_or_errored initial early with accepted | errored
  · exact accepted
  · have finished : (machine.steps early).status.finished = true := by simp [Status.finished, errored]
    have settled := settled_between finished order
    rw [Accepted, steps_observer] at later ⊢
    rw [memory, settled.memory] at later
    exact later

/-- The states in which a call attempts a step. -/
def Call.Attempts (call : Call) (machine state : Machine) : Prop :=
  match call with
  | .step | .interactive => state = machine
  | .run => ∃ count, (∀ earlier, earlier ≤ count → (machine.steps earlier).status.finished = false) ∧
      state = machine.steps count

theorem Call.Attempts.steps {call : Call} {machine state : Machine} (attempts : call.Attempts machine state) :
    ∃ count, state = machine.steps count := by
  cases call with
  | step | interactive => exact ⟨0, attempts⟩
  | run =>
    obtain ⟨count, _, same⟩ := attempts
    exact ⟨count, same⟩

/-- A call raises the error of a step that it attempts, and ends with it. -/
theorem Call.Attempts.raises {call : Call} {machine state : Machine} {failure : Failure}
    (attempts : call.Attempts machine state) (raised : state.step.2 = .error failure) :
    call.Answers machine (.raised failure) state.step.1 := by
  cases call with
  | step | interactive =>
    obtain rfl : state = machine := attempts
    refine ⟨?_, rfl⟩
    rw [raised]
    rfl
  | run =>
    obtain ⟨count, running, rfl⟩ := attempts
    exact ⟨some failure, runs_of_raises running raised, rfl⟩

theorem Call.Attempts.unobserved {call : Call} {machine state : Machine} (initial : machine.Accepted)
    (attempts : call.Attempts machine state) (accepted : state.Accepted) :
    call.Attempts machine.unobserved state.unobserved := by
  cases call with
  | step | interactive => exact congrArg Machine.unobserved attempts
  | run =>
    obtain ⟨count, running, rfl⟩ := attempts
    have alike {index : Nat} (inside : index ≤ count) : machine.unobserved.steps index = (machine.steps index).unobserved :=
      unnoticed_unobserved.steps fun earlier before => initial.earlier (Nat.le_trans before inside) accepted
    refine ⟨count, ?_, (alike (Nat.le_refl count)).symm⟩
    intro earlier before
    rw [alike before]
    exact running earlier before

theorem Transcript.unobserved {machine final : Machine} {log : List (Call × Answer)} (initial : machine.Accepted)
    (transcript : machine.Transcript log final) (accepted : final.Accepted) :
    machine.unobserved.Transcript log final.unobserved := by
  refine (unnoticed_unobserved.transcript_iff ?_).mpr ⟨final, transcript, rfl⟩
  intro state passes
  obtain ⟨early, rfl⟩ := passes.steps
  obtain ⟨more, rfl⟩ := transcript.steps_from passes
  rw [steps_add] at accepted
  exact initial.earlier (Nat.le_add_right early more) accepted

theorem load_unobserved {source : Text} {inputs : List Input} {limit : Option Int} {plain : Machine}
    (loads : load source inputs limit .absent = .ok plain) (observer : Observer) :
    ∃ observed, load source inputs limit observer = .ok observed ∧ observed.unobserved = plain ∧
      observed.workspace.observer = observer ∧ observed.memory = .empty := by
  obtain ⟨program, parsed, rfl⟩ := load_eq_ok loads
  exact ⟨start program inputs limit observer, bind_eq_ok.mpr ⟨program, parsed, rfl⟩, rfl, rfl, rfl⟩

theorem accepted_iff_of_table {machine : Machine} (tabled : machine.workspace.observer = .table) :
    machine.Accepted ↔ machine.memory.Representable := by
  rw [Accepted, tabled]
  exact Observer.accepts_table_iff

/-- A machine that is observed answers as one that is not, goes through the same states and logs the same, but for
the memory it shows. One whose observer writes the memory as a table does so as long as every number can be written.
The step that makes the first write of a longer one is interrupted, and raises the error of the call that attempts it. -/
theorem observers_without_influence {source : Text} {inputs : List Input} {limit : Option Int} {plain : Machine}
    (loads : load source inputs limit .absent = .ok plain) :
    ∃ watched tabled, load source inputs limit .snapshot = .ok watched ∧ load source inputs limit .table = .ok tabled ∧
      (∀ calls, Mirrors unobserved calls watched plain) ∧
      (∀ calls, (∀ state, tabled.Passes calls state → state.memory.Representable) →
        Mirrors unobserved calls tabled plain) ∧
      ∀ log machine (call : Call) (state : Machine), tabled.Transcript log machine → call.Attempts machine state →
        state.memory.Representable → ¬ state.step.1.memory.Representable →
        plain.Transcript log machine.unobserved ∧ call.Attempts machine.unobserved state.unobserved ∧
        call.Answers machine (.raised ((Fault.outOfRange Numeral.limitMessage).atLine state.status.line)) state.step.1 ∧
        state.Interrupted Numeral.limitMessage := by
  obtain ⟨watched, watchedLoads, rfl, watching, _⟩ := load_unobserved loads .snapshot
  obtain ⟨tabled, tabledLoads, same, tabling, empty⟩ := load_unobserved loads .table
  have table (count : Nat) : (tabled.steps count).workspace.observer = .table := by rw [steps_observer, tabling]
  have initial : tabled.Accepted := by
    rw [accepted_iff_of_table tabling, empty]
    exact Memory.representable_empty
  refine ⟨watched, tabled, watchedLoads, tabledLoads, ?_, ?_, ?_⟩
  · intro calls
    apply unnoticed_unobserved.mirrors
    intro state passes
    obtain ⟨count, rfl⟩ := passes.steps
    rw [Accepted, steps_observer, watching]
    exact Observer.accepts_snapshot _
  · intro calls short
    rw [← same]
    apply unnoticed_unobserved.mirrors
    intro state passes
    have short := short state passes
    obtain ⟨count, rfl⟩ := passes.steps
    exact (accepted_iff_of_table (table count)).mpr short
  · intro log machine call state transcript attempts short long
    obtain ⟨first, rfl⟩ := transcript.steps
    obtain ⟨second, reached⟩ := attempts.steps
    rw [steps_add] at reached
    subst reached
    have accepted : (tabled.steps (first + second)).Accepted := (accepted_iff_of_table (table _)).mpr short
    have refused : ¬ (tabled.steps (first + second)).step.1.Accepted :=
      fun accepted => long ((accepted_iff_of_table (table (first + second + 1))).mp accepted)
    have before : (tabled.steps first).Accepted := initial.earlier (Nat.le_add_right first second) accepted
    obtain ⟨reason, interrupted⟩ := interrupted_of_refused accepted refused
    have view := interrupted.refused
    rw [table] at view
    obtain rfl := Observer.reason_of_table view
    rw [← same]
    exact ⟨transcript.unobserved initial before, attempts.unobserved before accepted, attempts.raises interrupted.raised,
      interrupted⟩

/-- The number is read and stored, and only the observer minds. -/
theorem observers_without_influence_of_long_number :
    ∃ plain tabled, load "READ 1\nHALT".toList [.number Numeral.bound] none .absent = .ok plain ∧
      load "READ 1\nHALT".toList [.number Numeral.bound] none .table = .ok tabled ∧
      plain.step.1.status.errored = false ∧ plain.step.1.memory.cells = [(1, (Numeral.bound : Int))] ∧
      tabled.Interrupted Numeral.limitMessage := by
  let reading (observer : Observer) := start (.ofLines [⟨1, "READ 1".toList, none, "READ 1".toList⟩,
    ⟨2, "HALT".toList, none, "HALT".toList⟩]) [.number Numeral.bound] none observer
  have loads (observer : Observer) :
      load "READ 1\nHALT".toList [.number Numeral.bound] none observer = .ok (reading observer) := rfl
  obtain ⟨_, tabled, _, loaded, _, _, interrupts⟩ := observers_without_influence (loads .absent)
  obtain rfl := Except.ok.inj (loaded.symm.trans (loads .table))
  have long : ¬ (reading .table).step.1.memory.Representable := by decide +kernel
  refine ⟨reading .absent, reading .table, loads .absent, loaded, rfl, rfl, ?_⟩
  exact (interrupts [] _ .step _ .done rfl Memory.representable_empty long).2.2.2

end Machine
end RandomAccess
