import RandomAccess.Proofs.DriverCalls

/-! What a driver gets to see. A call answers with the entry of its step, with the whole trace, or with an error;
a transcript is a sequence of calls with their answers. A change to the machine that no single step notices is
not noticed by any driver: the changed machine has the same transcripts and goes through the same states, also in a
call that runs on forever. -/

namespace RandomAccess.Machine

inductive Answer where
  | entry (entry : Entry)
  | trace (entries : Array Entry)
  | raised (failure : Failure)
  deriving DecidableEq

def Answer.ofStep : Except Failure Entry → Answer
  | .ok recorded => .entry recorded
  | .error failure => .raised failure

def Answer.ofRun (final : Machine) : Option Failure → Answer
  | none => .trace final.trace
  | some failure => .raised failure

def Call.Answers (call : Call) (machine : Machine) (answer : Answer) (final : Machine) : Prop :=
  match call with
  | .step | .interactive => answer = .ofStep machine.step.2 ∧ final = machine.step.1
  | .run => ∃ error?, machine.Runs final error? ∧ answer = .ofRun final error?

inductive Transcript : Machine → List (Call × Answer) → Machine → Prop where
  | done {machine : Machine} : Transcript machine [] machine
  | call {machine next final : Machine} {call : Call} {answer : Answer} {log : List (Call × Answer)}
      (answers : call.Answers machine answer next) (rest : Transcript next log final) :
      Transcript machine ((call, answer) :: log) final

/-- The machines that a call leads through, also if it never comes back. -/
def Call.Passes (call : Call) (machine state : Machine) : Prop :=
  match call with
  | .step | .interactive => state = machine.step.1
  | .run => ∃ count, (∀ earlier, earlier < count → (machine.steps earlier).status.finished = false) ∧
      state = machine.steps count

/-- The machines that some calls lead through, up to the first that does not come back. -/
inductive Passes : Machine → List Call → Machine → Prop where
  | here {machine : Machine} {calls : List Call} : Passes machine calls machine
  | during {machine state : Machine} {call : Call} {calls : List Call} (passes : call.Passes machine state) :
      Passes machine (call :: calls) state
  | later {machine next state : Machine} {call : Call} {answer : Answer} {calls : List Call}
      (answers : call.Answers machine answer next) (passes : Passes next calls state) : Passes machine (call :: calls) state

theorem Call.Answers.steps {call : Call} {machine final : Machine} {answer : Answer}
    (answers : call.Answers machine answer final) : ∃ count, final = machine.steps count := by
  cases call with
  | step | interactive => exact ⟨1, answers.2⟩
  | run =>
    obtain ⟨_, returned, _⟩ := answers
    obtain ⟨count, same, _⟩ := returned.steps
    exact ⟨count, same⟩

theorem Passes.steps {start state : Machine} {calls : List Call} (passes : start.Passes calls state) :
    ∃ count, state = start.steps count := by
  induction passes with
  | here => exact ⟨0, rfl⟩
  | @during _ _ call _ passes =>
    cases call with
    | step | interactive => exact ⟨1, passes⟩
    | run =>
      obtain ⟨count, _, same⟩ := passes
      exact ⟨count, same⟩
  | later answers _ ih =>
    obtain ⟨first, rfl⟩ := answers.steps
    obtain ⟨second, rfl⟩ := ih
    exact ⟨first + second, steps_add _ first second⟩

theorem Call.Answers.unique {call : Call} {machine first second : Machine} {answer other : Answer}
    (one : call.Answers machine answer first) (two : call.Answers machine other second) : first = second := by
  cases call with
  | step | interactive => exact one.2.trans two.2.symm
  | run =>
    obtain ⟨_, returned, _⟩ := one
    obtain ⟨_, again, _⟩ := two
    exact (returned.unique again).1

theorem Transcript.steps {machine final : Machine} {log : List (Call × Answer)} (transcript : machine.Transcript log final) :
    ∃ count, final = machine.steps count := by
  induction transcript with
  | done => exact ⟨0, rfl⟩
  | call answers _ ih =>
    obtain ⟨first, rfl⟩ := answers.steps
    obtain ⟨second, rfl⟩ := ih
    exact ⟨first + second, steps_add _ first second⟩

theorem Call.Passes.steps_to {call : Call} {machine state next : Machine} {answer : Answer} (passes : call.Passes machine state)
    (answers : call.Answers machine answer next) : ∃ count, next = state.steps count := by
  cases call with
  | step | interactive =>
    refine ⟨0, ?_⟩
    rw [passes]
    exact answers.2
  | run =>
    obtain ⟨early, running, rfl⟩ := passes
    obtain ⟨_, returned, _⟩ := answers
    obtain ⟨late, rfl, _, ended⟩ := returned.steps
    by_cases order : early ≤ late
    · obtain ⟨more, rfl⟩ := Nat.exists_eq_add_of_le order
      exact ⟨more, (steps_add machine early more).symm⟩
    · -- Steps past the end of a run repeat the one that escaped.
      rcases ended with finished | ⟨last, rfl, escapes⟩
      · exact absurd finished (by simp [running late (by omega)])
      · obtain ⟨more, rfl⟩ : ∃ more, early = last + (more + 1) := ⟨early - last - 1, by omega⟩
        refine ⟨0, ?_⟩
        rw [steps, ← steps_add, steps_of_escapes escapes, ← steps_add, steps_of_escapes escapes]

/-- Whatever the calls of a transcript lead through comes before its end. -/
theorem Transcript.steps_from {machine state final : Machine} {log : List (Call × Answer)}
    (transcript : machine.Transcript log final) (passes : machine.Passes (log.map Prod.fst) state) :
    ∃ count, final = state.steps count := by
  induction transcript with
  | done =>
    cases passes
    exact ⟨0, rfl⟩
  | call answers rest ih =>
    cases passes with
    | here =>
      obtain ⟨first, rfl⟩ := answers.steps
      obtain ⟨second, rfl⟩ := rest.steps
      exact ⟨first + second, steps_add _ first second⟩
    | during passes =>
      obtain ⟨first, rfl⟩ := passes.steps_to answers
      obtain ⟨second, rfl⟩ := rest.steps
      exact ⟨first + second, steps_add _ first second⟩
    | later answered passes =>
      obtain rfl := answers.unique answered
      exact ih passes

/-- A change that a step does not notice, as long as the machine is as it is allowed to be before and after. -/
structure Unnoticed (change : Machine → Machine) (allowed : Machine → Prop) : Prop where
  finished : ∀ machine, (change machine).status.finished = machine.status.finished
  trace : ∀ machine, (change machine).trace = machine.trace
  step : ∀ machine, allowed machine → allowed machine.step.1 → (change machine).step = (change machine.step.1, machine.step.2)

namespace Unnoticed

variable {change : Machine → Machine} {allowed : Machine → Prop} (unnoticed : Unnoticed change allowed) {machine : Machine}
include unnoticed

theorem steps {count : Nat} (keeps : ∀ index ≤ count, allowed (machine.steps index)) :
    (change machine).steps count = change (machine.steps count) := by
  induction count with
  | zero => rfl
  | succ count ih =>
    have earlier := ih (fun index inside => keeps index (by omega))
    rw [Machine.steps, earlier, unnoticed.step _ (keeps count (by omega)) (keeps (count + 1) (by omega))]
    rfl

section Run

variable (keeps : ∀ state, Call.Passes .run machine state → allowed state)
include keeps

theorem steps_of_running {count : Nat} (running : ∀ earlier, earlier < count → (machine.steps earlier).status.finished = false) :
    (change machine).steps count = change (machine.steps count) := by
  apply unnoticed.steps
  intro index inside
  exact keeps _ ⟨index, fun earlier before => running earlier (by omega), rfl⟩

theorem running_iff {count : Nat} :
    (∀ earlier, earlier < count → ((change machine).steps earlier).status.finished = false) ↔
      ∀ earlier, earlier < count → (machine.steps earlier).status.finished = false := by
  induction count with
  | zero => simp
  | succ count ih =>
    rw [Nat.forall_lt_succ_right, Nat.forall_lt_succ_right, ih]
    apply and_congr_right
    intro running
    rw [unnoticed.steps_of_running keeps running, unnoticed.finished]

theorem runFor (fuel : Nat) : (change machine).runFor fuel = (change (machine.runFor fuel).1, (machine.runFor fuel).2) := by
  induction fuel generalizing machine with
  | zero => rfl
  | succ fuel ih =>
    cases running : machine.status.finished with
    | true =>
      have finished := running
      rw [← unnoticed.finished] at finished
      rw [runFor_of_finished finished, runFor_of_finished running]
    | false =>
      have here : Call.Passes .run machine machine := ⟨0, by simp, rfl⟩
      have later (state : Machine) (passes : Call.Passes .run machine.step.1 state) : Call.Passes .run machine state := by
        obtain ⟨count, before, rfl⟩ := passes
        refine ⟨count + 1, ?_, step_steps machine count⟩
        intro earlier less
        cases earlier with
        | zero => exact running
        | succ earlier =>
          rw [← step_steps]
          exact before earlier (by omega)
      have next : Call.Passes .run machine.step.1 machine.step.1 := ⟨0, by simp, rfl⟩
      have rest := ih fun state passes => keeps state (later state passes)
      have same := unnoticed.step machine (keeps _ here) (keeps _ (later _ next))
      simp only [Machine.runFor, unnoticed.finished, running, Bool.false_eq_true, if_false, same]
      rcases stepped : machine.step with ⟨after, answer⟩
      rw [stepped] at rest
      cases answer with
      | ok entry => exact rest
      | error failure => rfl

theorem runs_iff {final : Machine} {error? : Option Failure} :
    (change machine).Runs final error? ↔ ∃ other, machine.Runs other error? ∧ final = change other := by
  simp only [Machine.Runs, unnoticed.runFor keeps]
  constructor
  · rintro ⟨back, fuel, returned⟩
    obtain ⟨rfl, rfl⟩ := Prod.mk.inj returned
    rw [unnoticed.finished] at back
    exact ⟨_, ⟨back, fuel, rfl⟩, rfl⟩
  · rintro ⟨other, ⟨back, fuel, returned⟩, rfl⟩
    refine ⟨by rwa [unnoticed.finished], fuel, ?_⟩
    rw [returned]

end Run

theorem call_passes_iff {call : Call} (before : allowed machine)
    (keeps : ∀ state, call.Passes machine state → allowed state) {state : Machine} :
    call.Passes (change machine) state ↔ ∃ other, call.Passes machine other ∧ state = change other := by
  cases call with
  | step | interactive =>
    simp only [Call.Passes, unnoticed.step machine before (keeps _ rfl), exists_eq_left]
  | run =>
    constructor
    · rintro ⟨count, running, rfl⟩
      have running := (unnoticed.running_iff keeps).mp running
      exact ⟨_, ⟨count, running, rfl⟩, unnoticed.steps_of_running keeps running⟩
    · rintro ⟨_, ⟨count, running, rfl⟩, rfl⟩
      exact ⟨count, (unnoticed.running_iff keeps).mpr running, (unnoticed.steps_of_running keeps running).symm⟩

theorem answers_iff {call : Call} (before : allowed machine) (keeps : ∀ state, call.Passes machine state → allowed state)
    {answer : Answer} {final : Machine} :
    call.Answers (change machine) answer final ↔ ∃ other, call.Answers machine answer other ∧ final = change other := by
  cases call with
  | step | interactive =>
    have same := unnoticed.step machine before (keeps _ rfl)
    simp only [Call.Answers, same]
    constructor
    · rintro ⟨answer, final⟩
      exact ⟨_, ⟨answer, rfl⟩, final⟩
    · rintro ⟨_, ⟨answer, rfl⟩, final⟩
      exact ⟨answer, final⟩
  | run =>
    have answer (other : Machine) (error? : Option Failure) : Answer.ofRun (change other) error? = .ofRun other error? := by
      cases error? with
      | none => exact congrArg Answer.trace (unnoticed.trace other)
      | some failure => rfl
    constructor
    · rintro ⟨error?, returned, rfl⟩
      obtain ⟨other, returns, rfl⟩ := (unnoticed.runs_iff keeps).mp returned
      exact ⟨other, ⟨error?, returns, answer other error?⟩, rfl⟩
    · rintro ⟨other, ⟨error?, returned, rfl⟩, rfl⟩
      exact ⟨error?, (unnoticed.runs_iff keeps).mpr ⟨other, returned, rfl⟩, (answer other error?).symm⟩

theorem transcript_iff {log : List (Call × Answer)} (keeps : ∀ state, machine.Passes (log.map Prod.fst) state → allowed state)
    {final : Machine} :
    (change machine).Transcript log final ↔ ∃ other, machine.Transcript log other ∧ final = change other := by
  induction log generalizing machine with
  | nil =>
    constructor
    · rintro ⟨⟩
      exact ⟨machine, .done, rfl⟩
    · rintro ⟨_, ⟨⟩, rfl⟩
      exact .done
  | cons first log ih =>
    obtain ⟨call, answer⟩ := first
    have calls {final : Machine} := @answers_iff _ _ unnoticed machine call (keeps _ .here)
      (fun state passes => keeps state (.during passes)) answer final
    constructor
    · intro transcript
      cases transcript with
      | call answers rest =>
        obtain ⟨next, answered, rfl⟩ := calls.mp answers
        obtain ⟨other, continued, rfl⟩ := (ih fun state passes => keeps state (.later answered passes)).mp rest
        exact ⟨other, .call answered continued, rfl⟩
    · rintro ⟨other, transcript, rfl⟩
      cases transcript with
      | call answered rest =>
        exact .call (calls.mpr ⟨_, answered, rfl⟩)
          ((ih fun state passes => keeps state (.later answered passes)).mpr ⟨other, rest, rfl⟩)

theorem passes_iff {calls : List Call} (keeps : ∀ state, machine.Passes calls state → allowed state) {state : Machine} :
    (change machine).Passes calls state ↔ ∃ other, machine.Passes calls other ∧ state = change other := by
  induction calls generalizing machine with
  | nil =>
    constructor
    · rintro ⟨⟩
      exact ⟨machine, .here, rfl⟩
    · rintro ⟨_, ⟨⟩, rfl⟩
      exact .here
  | cons call calls ih =>
    have during := @call_passes_iff _ _ unnoticed machine call (keeps _ .here)
      (fun state passes => keeps state (.during passes)) state
    have answers {answer : Answer} {final : Machine} := @answers_iff _ _ unnoticed machine call (keeps _ .here)
      (fun state passes => keeps state (.during passes)) answer final
    constructor
    · intro passes
      cases passes with
      | here => exact ⟨machine, .here, rfl⟩
      | during passes =>
        obtain ⟨other, passed, rfl⟩ := during.mp passes
        exact ⟨other, .during passed, rfl⟩
      | later answered passes =>
        obtain ⟨next, answers, rfl⟩ := answers.mp answered
        obtain ⟨other, passed, rfl⟩ := (ih fun state passes => keeps state (.later answers passes)).mp passes
        exact ⟨other, .later answers passed, rfl⟩
    · rintro ⟨other, passes, rfl⟩
      cases passes with
      | here => exact .here
      | during passes => exact .during (during.mpr ⟨other, passes, rfl⟩)
      | later answered passes =>
        exact .later (answers.mpr ⟨_, answered, rfl⟩)
          ((ih fun state passes => keeps state (.later answered passes)).mpr ⟨other, passes, rfl⟩)

end Unnoticed

/-- The second machine answers these calls as the first one does. It ends where the first ends, and on the way it goes
through the states of the first, all of them under a change. -/
structure Mirrors (change : Machine → Machine) (calls : List Call) (first second : Machine) : Prop where
  transcript : ∀ log final, log.map Prod.fst = calls →
    (second.Transcript log final ↔ ∃ other, first.Transcript log other ∧ final = change other)
  passes : ∀ state, second.Passes calls state ↔ ∃ other, first.Passes calls other ∧ state = change other

theorem Unnoticed.mirrors {change : Machine → Machine} {allowed : Machine → Prop} (unnoticed : Unnoticed change allowed)
    {machine : Machine} {calls : List Call} (keeps : ∀ state, machine.Passes calls state → allowed state) :
    Mirrors change calls machine (change machine) := by
  refine ⟨?_, fun state => unnoticed.passes_iff keeps⟩
  rintro log final rfl
  exact unnoticed.transcript_iff keeps

end RandomAccess.Machine
