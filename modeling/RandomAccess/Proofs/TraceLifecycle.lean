import RandomAccess.Proofs.DriverCalls

/-! The life of a machine as its trace tells it. The steps that were made come first and the refused or
failed ones after them. The first failure, or the halt, settles the memory, the output and the inputs for
good; what is attempted later is refused and leaves nothing but its own entry. -/

namespace RandomAccess.Machine

theorem running_of_succeeds {machine : Machine} (succeeds : machine.report? = none) :
    machine.status.finished = false := by
  cases finished : machine.status.finished with
  | false => rfl
  | true => simp [report?, outcome_of_finished finished] at succeeds

theorem report?_of_finished {machine : Machine} (finished : machine.status.finished = true) :
    machine.report? = some ((refusal machine.status).atLine machine.status.line) := by
  simp only [report?, outcome_of_finished finished]

/-- What stays as it is from one machine that is finished to a later one. -/
structure Settled (before after : Machine) : Prop where
  finished : before.status.finished = true
  still : after.status.finished = true
  halted : after.status.halted = before.status.halted
  errored : before.status.errored = true → after.status.errored = true
  stepCount : after.status.stepCount = before.status.stepCount
  memory : after.workspace.memory = before.workspace.memory
  output : after.workspace.output = before.workspace.output
  inputs : after.workspace.inputs = before.workspace.inputs

theorem Settled.trans {first second third : Machine} (early : Settled first second) (late : Settled second third) :
    Settled first third :=
  ⟨early.finished, late.still, late.halted.trans early.halted, fun errored => late.errored (early.errored errored),
    late.stepCount.trans early.stepCount, late.memory.trans early.memory, late.output.trans early.output,
    late.inputs.trans early.inputs⟩

theorem settled_step {machine : Machine} (finished : machine.status.finished = true) :
    Settled machine machine.step.1 := by
  have outcome := outcome_of_finished finished
  have := records_of_finished finished
  have status : machine.step.1.status = machine.status.fail := by
    rw [step_status, outcome]
    rfl
  refine ⟨finished, ?_, ?_, ?_, ?_, ?_, ?_, ?_⟩
  · simp [status, Status.fail, Status.finished]
  · rw [status]
    rfl
  · intro _
    rw [status]
    rfl
  · rw [status]
    rfl
  · rw [step_memory, outcome]
  · rw [step_output, outcome]
  · rw [step_inputs, outcome]

theorem settled_steps {machine : Machine} (finished : machine.status.finished = true) (count : Nat) :
    Settled machine (machine.steps count) := by
  induction count with
  | zero => exact ⟨finished, finished, rfl, id, rfl, rfl, rfl, rfl⟩
  | succ count ih => exact ih.trans (settled_step ih.still)

theorem settled_between {machine : Machine} {early late : Nat} (finished : (machine.steps early).status.finished = true)
    (order : early ≤ late) : Settled (machine.steps early) (machine.steps late) := by
  obtain ⟨more, rfl⟩ := Nat.exists_eq_add_of_le order
  rw [← steps_add]
  exact settled_steps finished more

structure Fresh (machine : Machine) : Prop where
  status : machine.status = ⟨0, false, false, 0⟩
  trace : machine.trace = #[]

theorem load_fresh {source : Text} {inputs : List Input} {limit : Option Int} {observer : Observer} {machine : Machine}
    (loads : load source inputs limit observer = .ok machine) : machine.Fresh := by
  obtain ⟨program, _, rfl⟩ := load_eq_ok loads
  exact ⟨rfl, rfl⟩

theorem Fresh.running {machine : Machine} (fresh : machine.Fresh) : machine.status.finished = false := by
  rw [fresh.status]
  rfl

/-- Steps that are made are counted, and none of them but the last can halt the machine. -/
theorem Fresh.made {start : Machine} [start.Worded] (fresh : start.Fresh) {made : Nat}
    (succeeded : ∀ index, index < made → (start.steps index).report? = none) :
    (start.steps made).status.stepCount = made ∧ (start.steps made).status.errored = false ∧
      ((start.steps made).status.halted = true ↔
        0 < made ∧ Statement.ofText (start.steps (made - 1)).instruction = ⟨"HALT".toList, []⟩) := by
  induction made with
  | zero => simp [steps, fresh.status]
  | succ made ih =>
    obtain ⟨stepCount, errored, _⟩ := ih (fun index less => succeeded index (by omega))
    have succeeds := succeeded made (by omega)
    have running := running_of_succeeds succeeds
    obtain ⟨move, done⟩ := report?_eq_none_iff.mp succeeds
    have halted : (start.steps made).status.halted = false := by
      simp only [Status.finished, Bool.or_eq_false_iff] at running
      exact running.1
    simp only [steps, step_status, done, advance, Nat.add_sub_cancel, ← outcome_halts_iff]
    cases move <;>
      simp [Status.move, Status.advance, Status.jump, Status.halt, Status.countStep, stepCount, errored, halted]

theorem Fresh.trace_getElem? {start : Machine} [start.Worded] (fresh : start.Fresh) {count index : Nat} {entry : Entry} :
    (start.steps count).trace[index]? = some entry ↔ index < count ∧ (start.steps index).entry = entry := by
  rw [steps_trace, fresh.trace, Array.empty_append, Array.getElem?_map]
  by_cases inside : index < count
  · simp [inside]
  · simp [inside]

theorem Fresh.trace_size {start : Machine} [start.Worded] (fresh : start.Fresh) (count : Nat) :
    (start.steps count).trace.size = count := by
  simp [steps_trace, fresh.trace]

theorem Fresh.trace_take {start : Machine} [start.Worded] (fresh : start.Fresh) {early late : Nat} (order : early ≤ late) :
    (start.steps early).trace = (start.steps late).trace.take early := by
  have short : min early late = early := Nat.min_eq_left order
  apply Array.ext_getElem?
  intro index
  rw [steps_trace, steps_trace, fresh.trace]
  by_cases inside : index < early <;> simp [short, inside]

/-- Either all of some attempts succeed, or there is a first one that does not. -/
theorem first_failure (start : Machine) (count : Nat) :
    ∃ made, made ≤ count ∧ (∀ index, index < made → (start.steps index).report? = none) ∧
      (made < count → (start.steps made).report? ≠ none) := by
  induction count with
  | zero => exact ⟨0, Nat.le_refl 0, by simp, by simp⟩
  | succ count ih =>
    obtain ⟨made, within, succeeded, failed⟩ := ih
    by_cases all : made = count ∧ (start.steps made).report? = none
    · obtain ⟨rfl, succeeds⟩ := all
      refine ⟨made + 1, Nat.le_refl _, ?_, by simp⟩
      intro index less
      rcases Nat.lt_succ_iff_lt_or_eq.mp less with less | rfl
      · exact succeeded index less
      · exact succeeds
    · refine ⟨made, by omega, succeeded, ?_⟩
      intro _ succeeds
      have same : made = count := by
        by_cases short : made < count
        · exact absurd succeeds (failed short)
        · omega
      exact all ⟨same, succeeds⟩

/-- How far a fresh machine has come after some attempts of which the first `made` succeeded. -/
structure Progress (start : Machine) (count made : Nat) : Prop where
  within : made ≤ count
  succeeded : ∀ index, index < made → (start.steps index).report? = none
  counted : ∀ index, index ≤ made → (start.steps index).status.stepCount = index
  failed : made < count → (start.steps made).report? ≠ none
  stepCount : (start.steps count).status.stepCount = made
  errored : (start.steps count).status.errored = true ↔ made < count
  halted : (start.steps count).status.halted = true ↔
    0 < made ∧ Statement.ofText (start.steps (made - 1)).instruction = ⟨"HALT".toList, []⟩
  settled : ∀ index, made < index ∨ made = index ∧ (start.steps count).status.halted = true → index ≤ count →
    Settled (start.steps index) (start.steps count)

theorem Fresh.progress {start : Machine} [start.Worded] (fresh : start.Fresh) (count : Nat) :
    ∃ made, Progress start count made := by
  obtain ⟨made, within, succeeded, failed⟩ := first_failure start count
  have counted : ∀ index, index ≤ made → (start.steps index).status.stepCount = index := by
    intro index less
    exact (fresh.made (fun earlier before => succeeded earlier (by omega))).1
  obtain ⟨stepCount, unbroken, halted⟩ := fresh.made succeeded
  refine ⟨made, ?_⟩
  rcases Nat.lt_or_eq_of_le within with short | rfl
  · obtain ⟨diagnostic, raised⟩ := Option.ne_none_iff_exists'.mp (failed short)
    obtain ⟨fault, fails, _⟩ := report?_eq_some_iff.mp raised
    have broken : (start.steps (made + 1)).status = (start.steps made).status.fail := by
      rw [steps, step_status, fails]
      rfl
    have finished : (start.steps (made + 1)).status.finished = true := by
      simp [broken, Status.fail, Status.finished]
    have later := settled_between finished short
    have haltedSame : (start.steps count).status.halted = (start.steps made).status.halted := by
      rw [later.halted, broken]
      rfl
    refine ⟨within, succeeded, counted, failed, ?_, ?_, by rw [haltedSame]; exact halted, ?_⟩
    · rw [later.stepCount, broken]
      exact stepCount
    · refine ⟨fun _ => short, ?_⟩
      intro _
      apply later.errored
      rw [broken]
      rfl
    · rintro index (after | ⟨rfl, halts⟩) inside
      · exact settled_between (settled_between finished after).still inside
      · rw [haltedSame] at halts
        exact settled_between (by simp [Status.finished, halts]) inside
  · refine ⟨within, succeeded, counted, failed, stepCount, by simp [unbroken], halted, ?_⟩
    rintro index (after | ⟨rfl, halts⟩) inside
    · omega
    · exact settled_between (by simp [Status.finished, halts]) inside

/-- The trace of a machine, entry by entry, when `made` steps have succeeded. -/
structure Lifecycle (start final : Machine) (made : Nat) : Prop where
  /-- Every attempt is on record, unless the first one already escapes. -/
  attempts : final = start.steps final.trace.size ∨ start.Escapes ∧ final = start.lapsed
  first : ∀ entry, final.trace[0]? = some entry → entry.before = ⟨0, false, false, 0⟩
  chained : ∀ index entry next, final.trace[index]? = some entry → final.trace[index + 1]? = some next →
    entry.after = next.before
  last : ∀ entry, final.trace.back? = some entry → entry.after = final.status
  lines : ∀ entry ∈ final.trace, entry.line = entry.before.pc + 1
  within : made ≤ final.trace.size
  succeeded : ∀ index entry, index < made → final.trace[index]? = some entry → entry.error? = none ∧ entry.step = index
  failed : ∀ index entry, made ≤ index → final.trace[index]? = some entry → entry.error? ≠ none
  stepCount : final.status.stepCount = made
  errored : final.status.errored = true ↔ made < final.trace.size
  halted : final.status.halted = true ↔ ∃ entry, 0 < made ∧ final.trace[made - 1]? = some entry ∧
    Statement.ofText entry.instruction = ⟨"HALT".toList, []⟩
  refused : ∀ index entry, made < index ∨ made = index ∧ final.status.halted = true →
    final.trace[index]? = some entry →
    entry.error? = some ⟨.alreadyFinished,
      if final.status.halted then "Code is already finished" else "Code has already failed", some entry.line⟩
  /-- After the first failure, or after the halt, nothing but the trace changes. -/
  settled : ∀ count, made < count ∨ made = count ∧ final.status.halted = true → count ≤ final.trace.size →
    (start.steps count).trace = final.trace.take count ∧
    final.workspace.memory = (start.steps count).workspace.memory ∧
    final.workspace.output = (start.steps count).workspace.output ∧
    final.workspace.inputs = (start.steps count).workspace.inputs
  rerun : final.status.finished = true → ∀ fuel, final.runFor fuel = (final, none)

theorem Progress.lifecycle {start : Machine} [start.Worded] (fresh : start.Fresh) {count made : Nat}
    (progress : Progress start count made) : Lifecycle start (start.steps count) made := by
  have found {index : Nat} {entry : Entry} (held : (start.steps count).trace[index]? = some entry) :
      index < count ∧ (start.steps index).entry = entry := fresh.trace_getElem?.mp held
  constructor
  · rw [fresh.trace_size]
    exact .inl rfl
  · intro entry held
    obtain ⟨_, rfl⟩ := found held
    exact fresh.status
  · intro index entry next held follows
    obtain ⟨_, rfl⟩ := found held
    obtain ⟨_, rfl⟩ := found follows
    exact (step_status _).symm
  · intro entry held
    rw [Array.back?_eq_getElem?, fresh.trace_size] at held
    obtain ⟨inside, rfl⟩ := found held
    obtain ⟨count, rfl⟩ := Nat.exists_eq_succ_of_ne_zero (show count ≠ 0 by omega)
    exact (step_status _).symm
  · intro entry member
    obtain ⟨index, held⟩ := Array.mem_iff_getElem?.mp member
    obtain ⟨_, rfl⟩ := found held
    rfl
  · rw [fresh.trace_size]
    exact progress.within
  · intro index entry less held
    obtain ⟨_, rfl⟩ := found held
    exact ⟨progress.succeeded index less, progress.counted index (Nat.le_of_lt less)⟩
  · intro index entry after held
    obtain ⟨inside, rfl⟩ := found held
    rcases Nat.lt_or_eq_of_le after with after | rfl
    · have refuses := report?_of_finished (progress.settled index (.inl after) (Nat.le_of_lt inside)).finished
      simp [entry, refuses]
    · exact progress.failed inside
  · exact progress.stepCount
  · rw [fresh.trace_size]
    exact progress.errored
  · rw [progress.halted]
    constructor
    · intro halted
      obtain ⟨positive, halts⟩ := halted
      have inside := progress.within
      exact ⟨_, positive, fresh.trace_getElem?.mpr ⟨by omega, rfl⟩, halts⟩
    · intro halted
      obtain ⟨entry, positive, held, halts⟩ := halted
      obtain ⟨_, rfl⟩ := found held
      exact ⟨positive, halts⟩
  · intro index entry after held
    obtain ⟨inside, rfl⟩ := found held
    have settled := progress.settled index after (Nat.le_of_lt inside)
    have refuses := report?_of_finished settled.finished
    simp only [entry, refuses, refusal, settled.halted]
    split <;> rfl
  · intro index after inside
    rw [fresh.trace_size] at inside
    have settled := progress.settled index after inside
    exact ⟨fresh.trace_take inside, settled.memory, settled.output, settled.inputs⟩
  · intro final fuel
    exact runFor_of_finished final fuel

/-- A machine that has made no attempt on record is as it was at its start. -/
theorem Lifecycle.idle {start final : Machine} (attempts : final = start.steps 0 ∨ start.Escapes ∧ final = start.lapsed)
    (status : final.status = ⟨0, false, false, 0⟩) (trace : final.trace = #[]) : Lifecycle start final 0 := by
  constructor
  case settled =>
    rintro count (positive | ⟨_, halted⟩) inside
    · rw [trace] at inside
      exact absurd positive (Nat.not_lt.mpr inside)
    · rw [status] at halted
      cases halted
  all_goals simp [trace, status, attempts, Status.finished]

/-- Every attempt is on record, unless the first one already escapes, and an entry is that of its attempt. -/
theorem Driven.recorded {source : Text} {inputs : List Input} {limit : Option Int} {observer : Observer}
    {start final : Machine} {calls : List Call} (loads : load source inputs limit observer = .ok start)
    (driven : start.Driven calls final) :
    (final = start.steps final.trace.size ∨ start.Escapes ∧ final = start.lapsed) ∧
      ∀ {index : Nat} {entry : Entry}, final.trace[index]? = some entry → (start.steps index).entry = entry := by
  have fresh := load_fresh loads
  rcases load_worded_or_escapes loads with _ | escapes
  · obtain ⟨count, rfl⟩ := driven.steps
    refine ⟨.inl (by rw [fresh.trace_size]), ?_⟩
    intro index entry held
    exact (fresh.trace_getElem?.mp held).2
  · have unrecorded {index : Nat} {entry : Entry} (held : start.trace[index]? = some entry) :
        (start.steps index).entry = entry := by
      rw [fresh.trace] at held
      cases held
    rcases driven.of_escapes escapes with rfl | rfl
    · refine ⟨.inl ?_, unrecorded⟩
      rw [fresh.trace]
      rfl
    · exact ⟨.inr ⟨escapes, rfl⟩, unrecorded⟩

/-- Whatever a driver asks of a loaded machine, its trace tells its life. -/
theorem driven_lifecycle {source : Text} {inputs : List Input} {limit : Option Int} {observer : Observer}
    {start final : Machine} {calls : List Call} (loads : load source inputs limit observer = .ok start)
    (driven : start.Driven calls final) : ∃ made, Lifecycle start final made := by
  have fresh := load_fresh loads
  rcases load_worded_or_escapes loads with _ | escapes
  · obtain ⟨count, rfl⟩ := driven.steps
    obtain ⟨made, progress⟩ := fresh.progress count
    exact ⟨made, progress.lifecycle fresh⟩
  · rcases driven.of_escapes escapes with rfl | rfl
    · exact ⟨0, .idle (.inl rfl) fresh.status fresh.trace⟩
    · exact ⟨0, .idle (.inr ⟨escapes, rfl⟩) fresh.status fresh.trace⟩

theorem driven_lifecycle_of_step_after_halt :
    ∃ start final, load "HALT".toList [] none .absent = .ok start ∧ start.Driven [.run, .step, .run] final ∧
      final.status.halted = true ∧ final.status.errored = true ∧ ∃ made, Lifecycle start final made := by
  let halting := start (.ofLines [⟨1, "HALT".toList, none, "HALT".toList⟩]) [] none .absent
  have loads : load "HALT".toList [] none .absent = .ok halting := rfl
  have driven : halting.Driven [.run, .step, .run] (halting.steps 2) :=
    ((Driven.start.call (.run ⟨.inl rfl, 1, rfl⟩)).call .step).call (.run ⟨.inl rfl, 0, rfl⟩)
  exact ⟨halting, _, loads, driven, rfl, rfl, driven_lifecycle loads driven⟩

end RandomAccess.Machine
