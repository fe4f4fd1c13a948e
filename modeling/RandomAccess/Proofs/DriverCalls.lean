import RandomAccess.Proofs.StepEffects

/-! Runs as sequences of attempted steps. Running to the end makes the steps up to the first finished
machine, whatever the fuel, or up to the first error that escapes, and any sequence of calls by a driver makes
some number of steps in all. So what holds after every number of steps holds in every state that a driver can
reach. -/

namespace RandomAccess.Machine

theorem load_eq_ok {source : Text} {inputs : List Input} {limit : Option Int} {observer : Observer} {machine : Machine}
    (loads : load source inputs limit observer = .ok machine) :
    ∃ program, Program.load source = .ok program ∧ machine = start program inputs limit observer := by
  simp only [load, bind_eq_ok] at loads
  obtain ⟨program, parsed, same⟩ := loads
  cases same
  exact ⟨program, parsed, rfl⟩

section Load

variable {source : Text} {inputs : List Input} {limit : Option Int} {observer : Observer} {machine : Machine}
  (loads : load source inputs limit observer = .ok machine)
include loads

theorem load_worded (short : ∀ most, limit = some most → -(Numeral.bound : Int) < most) : machine.Worded := by
  obtain ⟨program, _, rfl⟩ := load_eq_ok loads
  exact ⟨short⟩

/-- With a step limit too long to be written, not even the first step is recorded. -/
theorem load_escapes {most : Int} (limited : limit = some most) (long : most ≤ -(Numeral.bound : Int)) :
    machine.Escapes := by
  obtain ⟨program, _, rfl⟩ := load_eq_ok loads
  have reached : most ≤ 0 := by omega
  refine ⟨.stepLimit most, ?_, ?_⟩
  · simp [start, fetch, limited, Option.filter, reached]
  · rw [Fault.worded_stepLimit_iff]
    omega

theorem load_worded_or_escapes : machine.Worded ∨ machine.Escapes := by
  by_cases short : ∀ most, limit = some most → -(Numeral.bound : Int) < most
  · exact .inl (load_worded loads short)
  · simp only [Classical.not_forall, Int.not_lt, exists_prop] at short
    obtain ⟨most, limited, long⟩ := short
    exact .inr (load_escapes loads limited long)

end Load

def steps (machine : Machine) : Nat → Machine
  | 0 => machine
  | count + 1 => (machine.steps count).step.1

theorem step_steps (machine : Machine) (count : Nat) : machine.step.1.steps count = machine.steps (count + 1) := by
  induction count with
  | zero => rfl
  | succ count ih => exact congrArg (fun machine => machine.step.1) ih

@[simp]
theorem steps_program (machine : Machine) (count : Nat) : (machine.steps count).program = machine.program := by
  induction count with
  | zero => rfl
  | succ count ih => rw [steps, step_program, ih]

@[simp]
theorem steps_limit (machine : Machine) (count : Nat) : (machine.steps count).limit = machine.limit := by
  induction count with
  | zero => rfl
  | succ count ih => rw [steps, step_limit, ih]

@[simp]
theorem steps_observer (machine : Machine) (count : Nat) :
    (machine.steps count).workspace.observer = machine.workspace.observer := by
  induction count with
  | zero => rfl
  | succ count ih => rw [steps, step_observer, ih]

instance (machine : Machine) [worded : machine.Worded] (count : Nat) : (machine.steps count).Worded where
  limit := by
    rw [steps_limit]
    exact worded.limit

theorem steps_trace (machine : Machine) [machine.Worded] (count : Nat) :
    (machine.steps count).trace = machine.trace ++ (Array.range count).map fun index => (machine.steps index).entry := by
  induction count with
  | zero => simp [steps]
  | succ count ih =>
    rw [steps, step_trace, ih, Array.range_succ, Array.map_append, ← Array.append_assoc]
    simp

theorem steps_of_escapes {machine : Machine} (escapes : machine.Escapes) (count : Nat) :
    machine.steps (count + 1) = machine.lapsed := by
  induction count with
  | zero => rw [steps, steps, step_of_escapes escapes]
  | succ count ih =>
    have again : machine.lapsed.Escapes := escapes
    rw [steps, ih, step_of_escapes again]
    rfl

theorem finished_of_report {machine : Machine} [machine.Records] {diagnostic : Diagnostic}
    (raised : machine.report? = some diagnostic) : machine.step.1.status.finished = true := by
  obtain ⟨fault, failed, _⟩ := report?_eq_some_iff.mp raised
  simp [step_status, failed, advance, Status.fail, Status.finished]

/-- The run is finished after this many steps and not before. -/
structure FinishesAt (machine : Machine) (count : Nat) : Prop where
  finished : (machine.steps count).status.finished = true
  running : ∀ earlier, earlier < count → (machine.steps earlier).status.finished = false

theorem FinishesAt.unique {machine : Machine} {first second : Nat} (one : machine.FinishesAt first)
    (other : machine.FinishesAt second) : first = second := by
  rcases Nat.lt_trichotomy first second with less | same | more
  · exact absurd one.finished (by simp [other.running first less])
  · exact same
  · exact absurd other.finished (by simp [one.running second more])

/-- A machine that has not finished makes at least one step before it has. -/
theorem FinishesAt.exists_succ {machine : Machine} {count : Nat} (finishes : machine.FinishesAt count)
    (running : machine.status.finished = false) : ∃ earlier, count = earlier + 1 := by
  cases count with
  | zero => exact absurd (running.symm.trans finishes.finished) Bool.false_ne_true
  | succ earlier => exact ⟨earlier, rfl⟩

theorem finishesAt_succ_iff {machine : Machine} {count : Nat} :
    machine.FinishesAt (count + 1) ↔ machine.status.finished = false ∧ machine.step.1.FinishesAt count := by
  constructor
  · intro finishes
    obtain ⟨finished, running⟩ := finishes
    refine ⟨running 0 (Nat.succ_pos count), ?_, ?_⟩
    · rw [step_steps]
      exact finished
    · intro earlier less
      rw [step_steps]
      exact running (earlier + 1) (Nat.succ_lt_succ less)
  · intro later
    obtain ⟨unfinished, finished, running⟩ := later
    refine ⟨by rwa [step_steps] at finished, ?_⟩
    intro earlier less
    cases earlier with
    | zero => exact unfinished
    | succ earlier =>
      rw [← step_steps]
      exact running earlier (Nat.lt_of_succ_lt_succ less)

def lastReport? (machine : Machine) : Nat → Option Diagnostic
  | 0 => none
  | count + 1 => (machine.steps count).report?

theorem runFor_of_finished {machine : Machine} (finished : machine.status.finished = true) (fuel : Nat) :
    machine.runFor fuel = (machine, none) := by
  cases fuel with
  | zero => rfl
  | succ fuel => simp [runFor, finished]

theorem runFor_succ {machine : Machine} [machine.Records] (running : machine.status.finished = false) (fuel : Nat) :
    machine.runFor (fuel + 1) = match machine.report? with
      | none => machine.step.1.runFor fuel
      | some diagnostic => (machine.step.1, some diagnostic) := by
  simp only [runFor, running, Bool.false_eq_true, if_false]
  rw [step_eq]
  cases machine.report? <;> rfl

theorem runFor_of_escapes {machine : Machine} (running : machine.status.finished = false) (escapes : machine.Escapes)
    (fuel : Nat) : machine.runFor (fuel + 1) = (machine.lapsed, some (.escaped Numeral.limitMessage)) := by
  simp only [runFor, running, Bool.false_eq_true, if_false]
  rw [step_of_escapes escapes]

/-- With enough fuel a run makes the steps up to the first finished machine and no more. -/
theorem runFor_of_finishesAt {machine : Machine} [machine.Worded] {count fuel : Nat} (finishes : machine.FinishesAt count)
    (enough : count ≤ fuel) :
    machine.runFor fuel = (machine.steps count, (machine.lastReport? count).map .reported) := by
  induction count generalizing machine fuel with
  | zero => exact runFor_of_finished finishes.finished fuel
  | succ count ih =>
    obtain ⟨fuel, rfl⟩ := Nat.exists_eq_succ_of_ne_zero (show fuel ≠ 0 by omega)
    obtain ⟨running, rest⟩ := finishesAt_succ_iff.mp finishes
    rw [runFor_succ running]
    cases raised : machine.report? with
    | some diagnostic =>
      have last : count = 0 := rest.unique ⟨finished_of_report raised, by simp⟩
      subst last
      simp [lastReport?, steps, raised]
    | none =>
      have returned : machine.step.1.runFor fuel =
          (machine.step.1.steps count, (machine.step.1.lastReport? count).map .reported) := ih rest (by omega)
      simp only [returned, step_steps, Prod.mk.injEq, true_and]
      cases count with
      | zero => simp [lastReport?, steps, raised]
      | succ count => simp only [lastReport?, step_steps]

/-- A run that comes back: its last machine is finished, or an error has ended it. A run that never finishes and meets no
error does not come back. -/
def Runs (machine final : Machine) (error? : Option Failure) : Prop :=
  (final.status.finished = true ∨ error? ≠ none) ∧ ∃ fuel, machine.runFor fuel = (final, error?)

/-- Where a run has come back from. -/
theorem Runs.steps {machine final : Machine} {error? : Option Failure} (runs : machine.Runs final error?) :
    ∃ count, final = machine.steps count ∧
      (∀ earlier, earlier < count → (machine.steps earlier).status.finished = false) ∧
      (final.status.finished = true ∨ ∃ earlier, count = earlier + 1 ∧ (machine.steps earlier).Escapes) := by
  obtain ⟨back, fuel, returned⟩ := runs
  induction fuel generalizing machine with
  | zero =>
    obtain ⟨rfl, rfl⟩ := Prod.mk.inj returned
    exact ⟨0, rfl, by simp, .inl (back.resolve_right (· rfl))⟩
  | succ fuel ih =>
    cases running : machine.status.finished with
    | true =>
      obtain ⟨rfl, _⟩ := Prod.mk.inj ((runFor_of_finished running (fuel + 1)).symm.trans returned)
      exact ⟨0, rfl, by simp, .inl running⟩
    | false =>
      have first : ∀ earlier, earlier < 1 → (machine.steps earlier).status.finished = false := by
        intro earlier less
        obtain rfl : earlier = 0 := by omega
        exact running
      rcases machine.escapes_or_records with escapes | _
      · rw [runFor_of_escapes running escapes, Prod.mk.injEq] at returned
        refine ⟨1, ?_, first, .inr ⟨0, rfl, escapes⟩⟩
        rw [steps_of_escapes escapes, returned.1]
      · rw [runFor_succ running] at returned
        cases raised : machine.report? with
        | some diagnostic =>
          rw [raised] at returned
          obtain ⟨rfl, _⟩ := Prod.mk.inj returned
          exact ⟨1, rfl, first, .inl (finished_of_report raised)⟩
        | none =>
          rw [raised] at returned
          obtain ⟨count, rfl, later, ended⟩ := ih returned
          refine ⟨count + 1, step_steps machine count, ?_, ?_⟩
          · intro earlier less
            cases earlier with
            | zero => exact running
            | succ earlier =>
              rw [← step_steps]
              exact later earlier (by omega)
          · refine ended.imp_right ?_
            rintro ⟨earlier, rfl, escapes⟩
            exact ⟨earlier + 1, rfl, by rwa [← step_steps]⟩

theorem runFor_add {machine final : Machine} {error? : Option Failure} (back : final.status.finished = true ∨ error? ≠ none)
    {fuel : Nat} (returned : machine.runFor fuel = (final, error?)) (more : Nat) :
    machine.runFor (fuel + more) = (final, error?) := by
  induction fuel generalizing machine with
  | zero =>
    obtain ⟨rfl, rfl⟩ := Prod.mk.inj returned
    exact runFor_of_finished (back.resolve_right (· rfl)) _
  | succ fuel ih =>
    rw [Nat.add_right_comm]
    simp only [runFor] at returned ⊢
    split at returned
    next finished => rw [if_pos finished, returned]
    next running =>
      rw [if_neg running]
      rcases stepped : machine.step with ⟨next, answer⟩
      rw [stepped] at returned
      cases answer with
      | ok entry => exact ih returned
      | error failure => exact returned

theorem Runs.unique {machine first second : Machine} {error? other? : Option Failure} (one : machine.Runs first error?)
    (other : machine.Runs second other?) : first = second ∧ error? = other? := by
  obtain ⟨backOne, fuel, returned⟩ := one
  obtain ⟨backOther, more, again⟩ := other
  have long := runFor_add backOther again fuel
  rw [Nat.add_comm] at long
  exact Prod.mk.inj ((runFor_add backOne returned more).symm.trans long)

/-- A run ends with the first step that raises an error, also if that escapes. -/
theorem runs_of_raises {machine : Machine} {count : Nat} {failure : Failure}
    (running : ∀ earlier, earlier ≤ count → (machine.steps earlier).status.finished = false)
    (raised : (machine.steps count).step.2 = .error failure) : machine.Runs (machine.steps (count + 1)) (some failure) := by
  refine ⟨.inr (Option.some_ne_none failure), count + 1, ?_⟩
  induction count generalizing machine with
  | zero =>
    have unfinished : machine.status.finished = false := running 0 (Nat.le_refl 0)
    have failed : machine.step = (machine.step.1, .error failure) := Prod.ext rfl raised
    simp only [runFor, unfinished, Bool.false_eq_true, if_false]
    rw [failed]
    rfl
  | succ count ih =>
    have unfinished : machine.status.finished = false := running 0 (Nat.zero_le _)
    rcases machine.escapes_or_records with escapes | _
    · have again : machine.lapsed.Escapes := escapes
      rw [steps_of_escapes escapes, step_of_escapes again] at raised
      cases raised
      rw [runFor_of_escapes unfinished escapes, steps_of_escapes escapes]
    · rw [runFor_succ unfinished]
      cases reports : machine.report? with
      | some diagnostic =>
        have next : machine.step.1.status.finished = false := running 1 (by omega)
        simp [finished_of_report reports] at next
      | none =>
        rw [← step_steps]
        refine ih ?_ (by rwa [step_steps])
        intro earlier before
        rw [step_steps]
        exact running (earlier + 1) (by omega)

theorem runs_iff {machine final : Machine} [machine.Worded] {error? : Option Failure} :
    machine.Runs final error? ↔
      ∃ count, machine.FinishesAt count ∧ final = machine.steps count ∧
        error? = (machine.lastReport? count).map .reported := by
  have returns {count : Nat} (finishes : machine.FinishesAt count) :
      machine.Runs (machine.steps count) ((machine.lastReport? count).map .reported) :=
    ⟨.inl finishes.finished, count, runFor_of_finishesAt finishes (Nat.le_refl count)⟩
  constructor
  · intro runs
    obtain ⟨count, rfl, running, ended⟩ := runs.steps
    have finishes : machine.FinishesAt count := by
      refine ⟨ended.resolve_right ?_, running⟩
      rintro ⟨earlier, _, escapes⟩
      exact Records.worded escapes
    exact ⟨count, finishes, rfl, (runs.unique (returns finishes)).2⟩
  · rintro ⟨count, finishes, rfl, rfl⟩
    exact returns finishes

/-- What a driver may ask of a machine. -/
inductive Call where
  | step
  | interactive
  | run
  deriving DecidableEq, Repr

/-- A call that comes back, whether or not it raised an error. -/
inductive Call.Returns : Call → Machine → Machine → Prop where
  | step {machine : Machine} : Returns .step machine machine.step.1
  | interactive {machine : Machine} : Returns .interactive machine machine.step.1
  | run {machine final : Machine} {error? : Option Failure} (returned : machine.Runs final error?) :
      Returns .run machine final

/-- A driver makes some calls in order, and catches their errors. -/
inductive Driven (start : Machine) : List Call → Machine → Prop where
  | start : Driven start [] start
  | call {calls : List Call} {call : Call} {machine final : Machine} (driven : Driven start calls machine)
      (returned : call.Returns machine final) : Driven start (calls ++ [call]) final

theorem steps_add (machine : Machine) (first second : Nat) :
    (machine.steps first).steps second = machine.steps (first + second) := by
  induction second with
  | zero => rfl
  | succ second ih => rw [steps, ih, ← Nat.add_assoc, steps]

theorem Call.Returns.steps {call : Call} {machine final : Machine} (returned : call.Returns machine final) :
    ∃ count, final = machine.steps count := by
  cases returned with
  | step | interactive => exact ⟨1, rfl⟩
  | run returned =>
    obtain ⟨count, same, _⟩ := returned.steps
    exact ⟨count, same⟩

theorem Driven.steps {start final : Machine} {calls : List Call} (driven : Driven start calls final) :
    ∃ count, final = start.steps count := by
  induction driven with
  | start => exact ⟨0, rfl⟩
  | call driven returned ih =>
    obtain ⟨first, rfl⟩ := ih
    obtain ⟨second, rfl⟩ := returned.steps
    exact ⟨first + second, steps_add start first second⟩

/-- No driver gets any further with a machine whose first step escapes. -/
theorem Driven.of_escapes {start final : Machine} {calls : List Call} (escapes : start.Escapes)
    (driven : Driven start calls final) : final = start ∨ final = start.lapsed := by
  obtain ⟨count, rfl⟩ := driven.steps
  cases count with
  | zero => exact .inl rfl
  | succ count => exact .inr (steps_of_escapes escapes count)

theorem Driven.program {start final : Machine} {calls : List Call} (driven : Driven start calls final) :
    final.program = start.program := by
  obtain ⟨count, rfl⟩ := driven.steps
  exact steps_program start count

theorem steps_invariant {holds : Machine → Prop} (kept : ∀ machine, holds machine → holds machine.step.1)
    {machine : Machine} (initial : holds machine) (count : Nat) : holds (machine.steps count) := by
  induction count with
  | zero => exact initial
  | succ count ih => exact kept (machine.steps count) ih

/-- What every attempted step keeps, every driver keeps. -/
theorem Driven.invariant {holds : Machine → Prop} (kept : ∀ machine, holds machine → holds machine.step.1)
    {start final : Machine} {calls : List Call} (initial : holds start) (driven : Driven start calls final) :
    holds final := by
  obtain ⟨count, rfl⟩ := driven.steps
  exact steps_invariant kept initial count

end RandomAccess.Machine
