import RandomAccess.Proofs.StepConsequences
import RandomAccess.Proofs.TraceLifecycle

/-! A step limit cuts a run short and does nothing else. Below the limit a limited machine makes the very
steps of the unlimited one; at the limit it fails, before it looks whether there is a line to execute. So a
limited run always comes back, and its end is the unlimited one exactly if that comes early enough. -/

namespace RandomAccess.Machine

theorem fetch_below {program : Program} {status : Status} {limit : Int} (below : status.stepCount < limit) :
    fetch program (some limit) status = fetch program none status := by
  have passed : ¬ limit ≤ status.stepCount := by omega
  simp [fetch, Option.filter, passed]

theorem fetch_at {program : Program} {status : Status} {limit : Int} (running : status.finished = false)
    (reached : limit ≤ status.stepCount) : fetch program (some limit) status = .error (.stepLimit limit) := by
  simp only [Status.finished, Bool.or_eq_false_iff] at running
  simp [fetch, Option.filter, running, reached]

theorem worded_of_unlimited {machine : Machine} (unlimited : machine.limit = none) : machine.Worded := by
  apply worded_of_natural
  rw [unlimited]
  nofun

instance (machine : Machine) (limit : Nat) : (machine.setLimit (some limit)).Worded := by
  apply worded_of_natural
  rintro most ⟨⟩
  exact Int.natCast_nonneg limit

section Below

variable {machine : Machine} {limit : Int}

theorem outcome_setLimit (unlimited : machine.limit = none) (below : machine.status.stepCount < limit) :
    (machine.setLimit (some limit)).outcome = machine.outcome := by
  simp only [outcome, setLimit, unlimited, fetch_below below]

theorem fetched_setLimit (unlimited : machine.limit = none) (below : machine.status.stepCount < limit) :
    (machine.setLimit (some limit)).fetched = machine.fetched := by
  simp only [fetched, setLimit, unlimited, fetch_below below]

theorem report?_setLimit (unlimited : machine.limit = none) (below : machine.status.stepCount < limit) :
    (machine.setLimit (some limit)).report? = machine.report? := by
  rw [report?, outcome_setLimit unlimited below]
  rfl

theorem step_setLimit (unlimited : machine.limit = none) (below : machine.status.stepCount < limit) :
    (machine.setLimit (some limit)).step.1 = machine.step.1.setLimit (some limit) := by
  have text := fetched_setLimit unlimited below
  have := worded_of_unlimited unlimited
  have := records_of_same text
  simp only [step_eq, entry, instruction_eq, text, report?_setLimit unlimited below, outcome_setLimit unlimited below]
  rfl

end Below

section Unlimited

variable {machine : Machine} (fresh : machine.Fresh) (unlimited : machine.limit = none) {limit count : Nat}

section Counted

variable [machine.Worded]
include fresh

theorem Fresh.stepCount_le (count : Nat) : (machine.steps count).status.stepCount ≤ count := by
  obtain ⟨made, progress⟩ := fresh.progress count
  have bound := progress.within
  rw [progress.stepCount]
  omega

/-- As long as a machine has not failed every attempt has been a step. -/
theorem Fresh.stepCount_of_sound (sound : (machine.steps count).status.errored = false) :
    (machine.steps count).status.stepCount = count := by
  obtain ⟨made, progress⟩ := fresh.progress count
  have all : ¬ made < count := by
    intro short
    rw [progress.errored.mpr short] at sound
    cases sound
  have bound := progress.within
  rw [progress.stepCount]
  omega

theorem Fresh.stepCount_of_running (running : (machine.steps count).status.finished = false) :
    (machine.steps count).status.stepCount = count :=
  fresh.stepCount_of_sound (Bool.or_eq_false_iff.mp running).2

end Counted

include fresh unlimited

theorem steps_setLimit (within : count ≤ limit) :
    (machine.setLimit (some limit)).steps count = (machine.steps count).setLimit (some limit) := by
  induction count with
  | zero => rfl
  | succ count ih =>
    have := worded_of_unlimited unlimited
    have bound := fresh.stepCount_le count
    rw [steps, ih (by omega), step_setLimit (by rw [steps_limit, unlimited]) (by omega), steps]

theorem lastReport?_setLimit (within : count ≤ limit) :
    (machine.setLimit (some limit)).lastReport? count = machine.lastReport? count := by
  cases count with
  | zero => rfl
  | succ count =>
    have := worded_of_unlimited unlimited
    have bound := fresh.stepCount_le count
    rw [lastReport?, steps_setLimit fresh unlimited (by omega), report?_setLimit (by rw [steps_limit, unlimited]) (by omega),
      lastReport?]

theorem finishesAt_setLimit_iff (within : count ≤ limit) :
    (machine.setLimit (some limit)).FinishesAt count ↔ machine.FinishesAt count := by
  have status (index : Nat) (inside : index ≤ count) :
      ((machine.setLimit (some limit)).steps index).status = (machine.steps index).status := by
    rw [steps_setLimit fresh unlimited (by omega)]
    rfl
  constructor
  · intro finishes
    obtain ⟨finished, running⟩ := finishes
    refine ⟨by rwa [status count (Nat.le_refl _)] at finished, ?_⟩
    intro earlier less
    rw [← status earlier (Nat.le_of_lt less)]
    exact running earlier less
  · intro finishes
    obtain ⟨finished, running⟩ := finishes
    refine ⟨by rwa [status count (Nat.le_refl _)], ?_⟩
    intro earlier less
    rw [status earlier (Nat.le_of_lt less)]
    exact running earlier less

end Unlimited

def HaltsWith (machine : Machine) (count : Nat) : Prop :=
  machine.FinishesAt count ∧ (machine.steps count).status.halted = true

/-- The run fails with the step that follows this many. -/
def FailsAfter (machine : Machine) (count : Nat) : Prop :=
  machine.FinishesAt (count + 1) ∧ (machine.steps (count + 1)).status.errored = true

/-- The run comes to its own end before the limit does. A failure has to come earlier than a halt,
because the limit is looked at before the step that fails. -/
def EndsWithin (machine : Machine) (limit : Nat) : Prop :=
  ∃ count, machine.HaltsWith count ∧ count ≤ limit ∨ machine.FailsAfter count ∧ count < limit

theorem Fresh.endsWithin_iff {machine : Machine} (fresh : machine.Fresh) {limit : Nat} :
    machine.EndsWithin limit ↔ ∃ count, count ≤ limit ∧ machine.FinishesAt count := by
  constructor
  · rintro ⟨count, ⟨halts, inside⟩ | ⟨fails, inside⟩⟩
    · exact ⟨count, inside, halts.1⟩
    · exact ⟨count + 1, inside, fails.1⟩
  · intro within
    obtain ⟨count, inside, finishes⟩ := within
    have ended := finishes.finished
    simp only [Status.finished, Bool.or_eq_true] at ended
    rcases ended with halted | errored
    · exact ⟨count, .inl ⟨⟨finishes, halted⟩, inside⟩⟩
    · cases count with
      | zero => simp [steps, fresh.status] at errored
      | succ count => exact ⟨count, .inr ⟨⟨finishes, errored⟩, inside⟩⟩

theorem exists_finishesAt {machine : Machine} {count : Nat} (finished : (machine.steps count).status.finished = true) :
    ∃ first, first ≤ count ∧ machine.FinishesAt first := by
  induction count using Nat.strongRecOn with
  | ind count ih =>
    by_cases sooner : ∃ earlier, earlier < count ∧ (machine.steps earlier).status.finished = true
    · obtain ⟨earlier, less, finished⟩ := sooner
      obtain ⟨first, inside, finishes⟩ := ih earlier less finished
      exact ⟨first, by omega, finishes⟩
    · refine ⟨count, Nat.le_refl _, finished, ?_⟩
      intro earlier less
      cases ended : (machine.steps earlier).status.finished with
      | false => rfl
      | true => exact absurd ⟨earlier, less, ended⟩ sooner

/-- A run that the limit ends: it makes as many steps of the unlimited run as the limit allows, and fails
for no other reason than the limit. -/
structure CutOff (unlimited final : Machine) (limit : Nat) (error? : Option Failure) : Prop where
  running : ∀ count, count ≤ limit → (unlimited.steps count).status.finished = false
  error : error? = some (.reported ((Fault.stepLimit limit).atLine (unlimited.steps limit).status.line))
  status : final.status = { (unlimited.steps limit).status with errored := true }
  stepCount : final.status.stepCount = limit
  memory : final.workspace.memory = (unlimited.steps limit).workspace.memory
  output : final.workspace.output = (unlimited.steps limit).workspace.output
  inputs : final.workspace.inputs = (unlimited.steps limit).workspace.inputs
  trace : ∃ entry, final.trace = (unlimited.steps limit).trace.push entry ∧ entry.error?.map .reported = error?

theorem Fresh.cutOff {machine : Machine} (fresh : machine.Fresh) (unlimited : machine.limit = none) {limit : Nat}
    (running : ∀ count, count ≤ limit → (machine.steps count).status.finished = false) :
    (machine.setLimit (some limit)).FinishesAt (limit + 1) ∧
      CutOff machine ((machine.setLimit (some limit)).steps (limit + 1)) limit
        (((machine.setLimit (some limit)).lastReport? (limit + 1)).map .reported) := by
  have := worded_of_unlimited unlimited
  have same := steps_setLimit fresh unlimited (Nat.le_refl limit)
  have counted := fresh.stepCount_of_running (running limit (Nat.le_refl limit))
  have refused : ((machine.setLimit (some limit)).steps limit).outcome =
      ⟨(machine.steps limit).workspace, [], .error (.stepLimit limit)⟩ := by
    rw [same]
    exact outcome_of_refused (fetch_at (running limit (Nat.le_refl limit)) (Int.le_of_eq counted.symm))
  have raised : ((machine.setLimit (some limit)).steps limit).report? =
      some ((Fault.stepLimit limit).atLine (machine.steps limit).status.line) := by
    rw [report?, refused, same]
    rfl
  have status : ((machine.setLimit (some limit)).steps (limit + 1)).status = (machine.steps limit).status.fail := by
    rw [steps, step_status, refused, same]
    rfl
  refine ⟨⟨finished_of_report raised, ?_⟩, running, congrArg (Option.map Failure.reported) raised, status,
    by rw [status]; exact counted, ?_, ?_, ?_, ?_⟩
  · intro earlier less
    rw [steps_setLimit fresh unlimited (by omega)]
    exact running earlier (by omega)
  · rw [steps, step_memory, refused]
  · rw [steps, step_output, refused]
  · rw [steps, step_inputs, refused]
  · refine ⟨((machine.setLimit (some limit)).steps limit).entry, ?_, rfl⟩
    rw [steps, step_trace, same]
    rfl

/-- A run that has halted without a failure has halted with its last step. -/
theorem Fresh.haltsWith {machine final : Machine} [machine.Worded] (fresh : machine.Fresh) {error? : Option Failure}
    (returned : machine.Runs final error?) (halted : final.status.halted = true) (sound : final.status.errored = false)
    {count : Nat} (counted : final.status.stepCount = count) : machine.HaltsWith count := by
  obtain ⟨attempts, finishes, rfl, _⟩ := runs_iff.mp returned
  rw [fresh.stepCount_of_sound sound] at counted
  obtain rfl : attempts = count := Int.ofNat_inj.mp counted
  exact ⟨finishes, halted⟩

theorem Fresh.setLimit {machine : Machine} (fresh : machine.Fresh) (limit : Option Int) : (machine.setLimit limit).Fresh :=
  ⟨fresh.status, fresh.trace⟩

/-- A limit below zero does not even allow the first step, whether or not that is put into words. -/
theorem Fresh.stopped {machine : Machine} (fresh : machine.Fresh) {limit : Int} (limited : machine.limit = some limit)
    (negative : limit < 0) : ∃ final error?, machine.Runs final error? ∧ final.status.halted = false := by
  have unhalted : machine.status.halted = false := (Bool.or_eq_false_iff.mp fresh.running).1
  rcases machine.escapes_or_records with escapes | _
  · exact ⟨_, _, ⟨.inr (Option.some_ne_none _), 1, runFor_of_escapes fresh.running escapes 0⟩, unhalted⟩
  · have refused : machine.outcome = ⟨machine.workspace, [], .error (.stepLimit limit)⟩ := by
      apply outcome_of_refused
      rw [limited]
      apply fetch_at fresh.running
      rw [fresh.status]
      exact Int.le_of_lt negative
    have raised : machine.report? = some ((Fault.stepLimit limit).atLine machine.status.line) := by
      rw [report?, refused]
    have returned : machine.runFor 1 =
        (machine.step.1, some (.reported ((Fault.stepLimit limit).atLine machine.status.line))) := by
      rw [runFor_succ fresh.running, raised]
    refine ⟨_, _, ⟨.inl (finished_of_report raised), 1, returned⟩, ?_⟩
    rw [step_status, refused]
    exact unhalted

/-- A run that halts without a limit halts with one exactly if the limit allows all of its steps. -/
theorem Fresh.halts_limited_iff {machine : Machine} (fresh : machine.Fresh) (unlimited : machine.limit = none) {count : Nat}
    (halts : machine.HaltsWith count) (limit : Int) :
    ∃ final error?, (machine.setLimit (some limit)).Runs final error? ∧ (final.status.halted = true ↔ count ≤ limit) := by
  obtain ⟨finishes, halted⟩ := halts
  rcases Int.lt_or_le limit 0 with negative | natural
  · obtain ⟨final, error?, runs, unhalted⟩ := (fresh.setLimit (some limit)).stopped rfl negative
    refine ⟨final, error?, runs, ?_⟩
    rw [unhalted]
    constructor
    · intro impossible
      cases impossible
    · intro within
      omega
  · obtain ⟨limit, rfl⟩ := Int.eq_ofNat_of_zero_le natural
    by_cases within : count ≤ limit
    · have limited := (finishesAt_setLimit_iff fresh unlimited within).mpr finishes
      refine ⟨_, _, runs_iff.mpr ⟨count, limited, rfl, rfl⟩, ?_⟩
      rw [steps_setLimit fresh unlimited within]
      exact ⟨fun _ => Int.ofNat_le.mpr within, fun _ => halted⟩
    · have running (earlier : Nat) (inside : earlier ≤ limit) : (machine.steps earlier).status.finished = false :=
        finishes.running earlier (by omega)
      obtain ⟨stops, cut⟩ := fresh.cutOff unlimited running
      refine ⟨_, _, runs_iff.mpr ⟨limit + 1, stops, rfl, rfl⟩, ?_⟩
      have unhalted : (machine.steps limit).status.halted = false :=
        (Bool.or_eq_false_iff.mp (running limit (Nat.le_refl limit))).1
      rw [cut.status]
      constructor
      · intro halts
        exact absurd (unhalted.symm.trans halts) Bool.false_ne_true
      · intro enough
        exact absurd (Int.ofNat_le.mp enough) within

theorem load_setLimit {source : Text} {inputs : List Input} {observer : Observer} {unlimited : Machine}
    (loads : load source inputs none observer = .ok unlimited) (limit : Option Int) :
    load source inputs limit observer = .ok (unlimited.setLimit limit) ∧ unlimited.limit = none := by
  obtain ⟨program, parsed, rfl⟩ := load_eq_ok loads
  exact ⟨bind_eq_ok.mpr ⟨program, parsed, rfl⟩, rfl⟩

/-- A limited run comes back after at most as many steps as the limit. It ends as the unlimited run does,
up to the limit itself, if that run ends within the limit; otherwise the limit cuts it off. -/
theorem limited_run_exact {source : Text} {inputs : List Input} {observer : Observer} {unlimited : Machine}
    (loads : load source inputs none observer = .ok unlimited) (limit : Nat) :
    ∃ limited final error?, load source inputs (some limit) observer = .ok limited ∧
      limited.runFor (limit + 1) = (final, error?) ∧ final.status.finished = true ∧ final.status.stepCount ≤ limit ∧
      (unlimited.EndsWithin limit →
        ∃ last, unlimited.Runs last error? ∧ final = last.setLimit (some limit)) ∧
      (¬ unlimited.EndsWithin limit → CutOff unlimited final limit error?) := by
  have fresh := load_fresh loads
  obtain ⟨limitedLoads, without⟩ := load_setLimit loads (some (limit : Int))
  have := worded_of_unlimited without
  by_cases ends : unlimited.EndsWithin limit
  · obtain ⟨count, inside, finishes⟩ := fresh.endsWithin_iff.mp ends
    have limitedFinishes := (finishesAt_setLimit_iff fresh without inside).mpr finishes
    have same := steps_setLimit fresh without inside
    refine ⟨_, _, _, limitedLoads, runFor_of_finishesAt limitedFinishes (by omega), limitedFinishes.finished, ?_, ?_,
      fun other => absurd ends other⟩
    · have bound := fresh.stepCount_le count
      rw [same]
      exact Int.le_trans bound (by omega)
    · intro _
      refine ⟨unlimited.steps count, runs_iff.mpr ⟨count, finishes, rfl, ?_⟩, same⟩
      rw [lastReport?_setLimit fresh without inside]
  · have running : ∀ count, count ≤ limit → (unlimited.steps count).status.finished = false := by
      intro count inside
      cases finished : (unlimited.steps count).status.finished with
      | false => rfl
      | true =>
        obtain ⟨first, before, finishes⟩ := exists_finishesAt finished
        exact absurd (fresh.endsWithin_iff.mpr ⟨first, by omega, finishes⟩) ends
    obtain ⟨finishes, cut⟩ := fresh.cutOff without running
    exact ⟨_, _, _, limitedLoads, runFor_of_finishesAt finishes (Nat.le_refl _), finishes.finished,
      Int.le_of_eq cut.stepCount, fun other => absurd other ends, fun _ => cut⟩

theorem limited_run_exact_of_loop :
    ∃ unlimited, load "go: JUMP go".toList [] none .absent = .ok unlimited ∧
      ∃ limited final error?, load "go: JUMP go".toList [] (some 2) .absent = .ok limited ∧
        limited.runFor 3 = (final, error?) ∧ final.status.finished = true ∧ final.status.stepCount ≤ 2 ∧
        (unlimited.EndsWithin 2 → ∃ last, unlimited.Runs last error? ∧ final = last.setLimit (some 2)) ∧
        (¬ unlimited.EndsWithin 2 → CutOff unlimited final 2 error?) := by
  let looping := start (.ofLines [⟨1, "go: JUMP go".toList, some "go".toList, "JUMP go".toList⟩]) [] none .absent
  have loads : load "go: JUMP go".toList [] none .absent = .ok looping := rfl
  exact ⟨looping, loads, limited_run_exact loads 2⟩

end RandomAccess.Machine
