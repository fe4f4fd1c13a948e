import RandomAccess.Proofs.InsertedLines
import RandomAccess.Proofs.StepLimit

/-! Running a program with an idle line put in. The machine with the line goes along with the machine without it,
step by step, with its program counter shifted; only when the other steps on to the line behind the one put in does
it take one step more. So the two finish together or not at all, and they end alike. -/

namespace RandomAccess

/-- A workspace without the reports of errors in its log. These name lines. -/
def Workspace.quiet (workspace : Workspace) : Workspace :=
  { workspace with events := workspace.events.filter (!·.isError) }

namespace Machine

theorem step_quiet (machine : Machine) :
    machine.step.1.workspace.quiet = (machine.consequence.outcome machine.workspace.quiet).workspace.quiet := by
  have unheard : machine.reported.filter (!·.isError) = [] := by
    rw [reported]
    split <;> rfl
  rw [step_workspace]
  simp only [Workspace.quiet, Consequence.outcome, logged, Workspace.mk.injEq, true_and]
  exact Array.ext' (by simp [List.filter_append, unheard])

theorem step_line_of_report {machine : Machine} [machine.Records] {diagnostic : Diagnostic}
    (raised : machine.report? = some diagnostic) : machine.step.1.status.line = machine.status.line := by
  obtain ⟨fault, failed, _⟩ := report?_eq_some_iff.mp raised
  rw [step_status, failed]
  rfl

/-- Two machines, one of which has a line more in its program, that agree on everything but where they stand. -/
structure Twins (index : Nat) (first second : Machine) : Prop where
  inserted : first.program.Inserted index second.program
  unlimited : first.limit = none ∧ second.limit = none
  halted : second.status.halted = first.status.halted
  errored : second.status.errored = first.status.errored
  workspace : second.workspace.quiet = first.workspace.quiet

/-- Both stand on the same line. -/
structure Abreast (index : Nat) (first second : Machine) : Prop extends Twins index first second where
  pc : second.status.pc = shift index first.status.pc

/-- The second stands on the line that was put in, and the first on the one behind. -/
structure Behind (index : Nat) (first second : Machine) : Prop extends Twins index first second where
  first_pc : first.status.pc = index
  second_pc : second.status.pc = index
  running : first.status.finished = false

variable {index : Nat} {first second : Machine}

theorem Twins.finished (twins : Twins index first second) : second.status.finished = first.status.finished := by
  rw [Status.finished, Status.finished, twins.halted, twins.errored]

theorem Twins.worded (twins : Twins index first second) : first.Worded ∧ second.Worded :=
  ⟨worded_of_unlimited twins.unlimited.1, worded_of_unlimited twins.unlimited.2⟩

theorem Twins.step (twins : Twins index first second) {place : Int → Int}
    (consequence : second.consequence = first.consequence.relocate place) : Twins index first.step.1 second.step.1 := by
  obtain ⟨_, _⟩ := twins.worded
  have next : second.outcome.next = Move.relocate place <$> first.outcome.next := by
    rw [outcome_next, outcome_next, consequence]
    rfl
  refine ⟨?_, ?_, ?_, ?_, ?_⟩
  · rw [step_program, step_program]
    exact twins.inserted
  · rw [step_limit, step_limit]
    exact twins.unlimited
  · rw [step_status, step_status, next]
    cases first.outcome.next with
    | error fault => exact twins.halted
    | ok move => cases move <;> first | exact twins.halted | rfl
  · rw [step_status, step_status, next]
    cases first.outcome.next with
    | error fault => rfl
    | ok move => cases move <;> exact twins.errored
  · rw [step_quiet, step_quiet, twins.workspace, consequence]
    rfl

namespace Abreast

variable (abreast : Abreast index first second)
include abreast

theorem fetched : second.fetched = first.fetched := by
  rw [fetched_eq, fetched_eq, abreast.halted, abreast.errored, abreast.unlimited.1, abreast.unlimited.2, abreast.pc,
    abreast.inserted.text]
  rfl

theorem consequence : second.consequence = first.consequence.relocate (shift index) := by
  have workspace := abreast.workspace
  simp only [Workspace.quiet, Workspace.mk.injEq] at workspace
  obtain ⟨memory, inputs, observer, _⟩ := workspace
  exact consequence_relocate abreast.inserted.relocates abreast.fetched memory observer inputs

theorem report? :
    first.report? = none ∧ second.report? = none ∨
      ∃ fault : Fault, first.report? = some (fault.atLine first.status.line) ∧
        second.report? = some (fault.atLine second.status.line) := by
  simp only [Machine.report?, outcome_next, abreast.consequence, Consequence.relocate]
  cases first.consequence.next with
  | ok move => exact .inl ⟨rfl, rfl⟩
  | error fault => exact .inr ⟨fault, rfl, rfl⟩

theorem step (running : first.status.finished = false) :
    Abreast index first.step.1 second.step.1 ∨ Behind index first.step.1 second.step.1 := by
  obtain ⟨_, _⟩ := abreast.worded
  have twins := abreast.toTwins.step abreast.consequence
  have status := step_status first
  have shifted := step_status second
  rw [outcome_next] at status shifted
  rw [abreast.consequence, Consequence.relocate] at shifted
  cases next : first.consequence.next with
  | error fault =>
    refine .inl ⟨twins, ?_⟩
    rw [status, shifted, next]
    exact abreast.pc
  | ok move =>
    rw [next] at status shifted
    cases move with
    | halt =>
      refine .inl ⟨twins, ?_⟩
      rw [status, shifted]
      exact abreast.pc
    | jump target =>
      refine .inl ⟨twins, ?_⟩
      rw [status, shifted]
      rfl
    | advance =>
      have pc : first.step.1.status.pc = first.status.pc + 1 := by
        rw [status]
        rfl
      have pc' : second.step.1.status.pc = shift index first.status.pc + 1 := by
        rw [shifted, ← abreast.pc]
        rfl
      by_cases reached : first.status.pc + 1 = index
      · refine .inr ⟨twins, pc.trans reached, ?_, ?_⟩
        · rw [pc', shift, if_pos (by omega), reached]
        · rw [status]
          exact running
      · refine .inl ⟨twins, ?_⟩
        rw [pc, pc']
        unfold shift
        split <;> split <;> omega

end Abreast

theorem consequence_of_blank {machine : Machine} (blank : machine.fetched = .ok []) :
    machine.consequence = { memory := machine.workspace.memory, next := .ok .advance } := by
  rw [consequence, blank]
  rfl

theorem Behind.step (behind : Behind index first second) : Abreast index first second.step.1 := by
  have running := behind.running
  simp only [Status.finished, Bool.or_eq_false_iff] at running
  have blank : second.fetched = .ok [] := by
    rw [fetched_eq, behind.halted, behind.errored, running.1, running.2, behind.unlimited.2, behind.second_pc,
      behind.inserted.idle]
    rfl
  have consequence := consequence_of_blank blank
  have := records_of_text second blank
  have status : second.step.1.status = (second.status.move .advance).countStep := by
    rw [step_status, outcome_next, consequence]
    rfl
  refine ⟨⟨?_, ?_, ?_, ?_, ?_⟩, ?_⟩
  · rw [step_program]
    exact behind.inserted
  · rw [step_limit]
    exact behind.unlimited
  · rw [status]
    exact behind.halted
  · rw [status]
    exact behind.errored
  · rw [step_quiet, consequence, ← behind.workspace]
    simp [Consequence.outcome, Workspace.quiet]
  · rw [status, behind.first_pc, shift, if_neg (by omega)]
    exact congrArg (· + 1) behind.second_pc

/-- The second machine comes abreast of the first before it finishes. -/
def Catches (index : Nat) (first second : Machine) (more : Nat) : Prop :=
  Abreast index first (second.steps more) ∧ ∀ earlier, earlier < more → (second.steps earlier).status.finished = false

/-- As long as the first machine runs, the second comes abreast of it again and again. -/
theorem Catches.steps {more : Nat} (catches : Catches index first second more) {count : Nat}
    (running : ∀ earlier, earlier < count → (first.steps earlier).status.finished = false) :
    ∃ more, count ≤ more ∧ Catches index (first.steps count) second more := by
  induction count with
  | zero => exact ⟨more, Nat.zero_le more, catches⟩
  | succ count ih =>
    obtain ⟨more, enough, abreast, before⟩ := ih fun earlier less => running earlier (by omega)
    have now := running count (by omega)
    have through : ∀ earlier, earlier < more + 1 → (second.steps earlier).status.finished = false :=
      Nat.forall_lt_succ_right.mpr ⟨before, abreast.finished.trans now⟩
    rcases abreast.step now with abreast | behind
    · exact ⟨more + 1, by omega, abreast, through⟩
    · exact ⟨more + 2, by omega, behind.step,
        Nat.forall_lt_succ_right.mpr ⟨through, behind.finished.trans behind.running⟩⟩

/-- Two machines that have finished, the second on a program with a line more. They differ in the line they stand
on, which is the line that an error names. -/
structure SameEnd (index : Nat) (first second : Machine) (firstError? secondError? : Option Failure) : Prop where
  workspace : second.workspace.quiet = first.workspace.quiet
  halted : second.status.halted = first.status.halted
  errored : second.status.errored = first.status.errored
  pc : second.status.pc = shift index first.status.pc
  error? : firstError? = none ∧ secondError? = none ∨
    ∃ fault : Fault, firstError? = some (.reported (fault.atLine (first.status.pc + 1))) ∧
      secondError? = some (.reported (fault.atLine (second.status.pc + 1)))

theorem Catches.finishesAt {more : Nat} (catches : Catches index first second more)
    (running : first.status.finished = false) {count : Nat} (finishes : first.FinishesAt count) :
    ∃ last, second.FinishesAt last ∧
      SameEnd index (first.steps count) (second.steps last) ((first.lastReport? count).map .reported)
        ((second.lastReport? last).map .reported) := by
  cases count with
  | zero =>
    have finished : first.status.finished = true := finishes.finished
    simp [running] at finished
  | succ count =>
    have caught : ∃ more, count ≤ more ∧ Catches index (first.steps count) second more :=
      catches.steps fun earlier less => finishes.running earlier (by omega)
    obtain ⟨more, _, abreast, before⟩ := caught
    have now := finishes.running count (by omega)
    rcases abreast.step now with ended | behind
    · refine ⟨more + 1, ⟨ended.finished.trans finishes.finished, ?_⟩, ?_⟩
      · exact Nat.forall_lt_succ_right.mpr ⟨before, abreast.finished.trans now⟩
      · refine ⟨ended.workspace, ended.halted, ended.errored, ended.pc, ?_⟩
        rcases abreast.report? with ⟨none, none'⟩ | ⟨fault, raised, raised'⟩
        · exact .inl ⟨Option.map_eq_none_iff.mpr none, Option.map_eq_none_iff.mpr none'⟩
        · obtain ⟨_, _⟩ := abreast.worded
          refine .inr ⟨fault, ?_, ?_⟩
          · rw [lastReport?, raised, ← step_line_of_report raised]
            rfl
          · rw [lastReport?, raised', ← step_line_of_report raised']
            rfl
    · have finished : (first.steps count).step.1.status.finished = true := finishes.finished
      simp [behind.running] at finished

/-- Were the first machine to run on forever, the second would have to come abreast of it after its own end. -/
theorem Catches.finishes {more : Nat} (catches : Catches index first second more) {last : Nat}
    (finished : second.FinishesAt last) : ∃ count, first.FinishesAt count := by
  by_cases ends : ∃ count, (first.steps count).status.finished = true
  · obtain ⟨count, finished⟩ := ends
    obtain ⟨earliest, _, finishes⟩ := exists_finishesAt finished
    exact ⟨earliest, finishes⟩
  · simp only [not_exists, Bool.not_eq_true] at ends
    have caught : ∃ later, last + 1 ≤ later ∧ Catches index (first.steps (last + 1)) second later :=
      catches.steps fun earlier _ => ends earlier
    obtain ⟨later, beyond, _, before⟩ := caught
    have contrary := before last (by omega)
    simp [finished.finished] at contrary

theorem load_catches {source line : Text} {inputs : List Input} {observer : Observer}
    (loads : load source inputs none observer = .ok first) (inside : index ≤ (source.splitOn '\n').length)
    (idle : Line.Idle line) :
    ∃ second more, load (insertLine source index line) inputs none observer = .ok second ∧ Catches index first second more := by
  obtain ⟨before, parsed, rfl⟩ := load_eq_ok loads
  obtain ⟨after, reparsed, inserted⟩ := Program.load_insertLine parsed inside idle
  have twins : Twins index (start before inputs none observer) (start after inputs none observer) :=
    ⟨inserted, ⟨rfl, rfl⟩, rfl, rfl, rfl⟩
  have reloads : load (insertLine source index line) inputs none observer = .ok (start after inputs none observer) :=
    bind_eq_ok.mpr ⟨after, reparsed, rfl⟩
  cases index with
  | zero =>
    have behind : Behind 0 (start before inputs none observer) (start after inputs none observer) :=
      ⟨twins, rfl, rfl, rfl⟩
    refine ⟨_, 1, reloads, behind.step, ?_⟩
    intro earlier less
    obtain rfl : earlier = 0 := by omega
    rfl
  | succ index =>
    have before : (0 : Int) < (index + 1 : Nat) := by omega
    exact ⟨_, 0, reloads, ⟨twins, (if_pos before).symm⟩, by simp⟩

/-- A line that holds no more than blanks and a comment changes nothing, wherever it is put. -/
theorem idle_line_preserves_run {source line : Text} {inputs : List Input} {observer : Observer} {index : Nat}
    {first : Machine} (loads : load source inputs none observer = .ok first)
    (inside : index ≤ (source.splitOn '\n').length) (idle : Line.Idle line) :
    ∃ second, load (insertLine source index line) inputs none observer = .ok second ∧
      ((∃ final error?, first.Runs final error?) ↔ ∃ final error?, second.Runs final error?) ∧
      ∀ final error? other otherError?, first.Runs final error? → second.Runs other otherError? →
        SameEnd index final other error? otherError? := by
  obtain ⟨second, more, reloads, catches⟩ := load_catches loads inside idle
  have := load_worded loads nofun
  have := load_worded reloads nofun
  have running := (load_fresh loads).running
  refine ⟨second, reloads, ⟨?_, ?_⟩, ?_⟩
  · rintro ⟨_, _, runs⟩
    obtain ⟨count, finishes, _⟩ := runs_iff.mp runs
    obtain ⟨last, finished, _⟩ := catches.finishesAt running finishes
    exact ⟨_, _, runs_iff.mpr ⟨last, finished, rfl, rfl⟩⟩
  · rintro ⟨_, _, runs⟩
    obtain ⟨last, finished, _⟩ := runs_iff.mp runs
    obtain ⟨count, finishes⟩ := catches.finishes finished
    exact ⟨_, _, runs_iff.mpr ⟨count, finishes, rfl, rfl⟩⟩
  · intro final error? other otherError? runs otherRuns
    obtain ⟨count, finishes, rfl, rfl⟩ := runs_iff.mp runs
    obtain ⟨last, finished, rfl, rfl⟩ := runs_iff.mp otherRuns
    obtain ⟨same, sameFinished, ends⟩ := catches.finishesAt running finishes
    rw [← sameFinished.unique finished]
    exact ends

-- The jump leads past the comment to the line behind it, which names itself in the error.
theorem idle_line_preserves_run_of_jump_past_comment :
    ∃ second other, ∃ fault : Fault, load "JUMP go\n; here\ngo: WRITE 5".toList [] none .absent = .ok second ∧
      second.Runs other (some (.reported (fault.atLine 3))) ∧ fault.kind = .memoryUndefined ∧ other.status.pc = 2 := by
  let jumping := start (.ofLines [⟨1, "JUMP go".toList, none, "JUMP go".toList⟩,
    ⟨2, "go: WRITE 5".toList, some "go".toList, "WRITE 5".toList⟩]) [] none .absent
  have loads : load "JUMP go\ngo: WRITE 5".toList [] none .absent = .ok jumping := rfl
  have idle : Line.Idle "; here".toList := .comment ⟨[], by decide, by decide⟩ (show '\n' ∉ " here".toList by decide)
  have inside : 1 ≤ ("JUMP go\ngo: WRITE 5".toList.splitOn '\n').length := by decide
  obtain ⟨second, reloads, together, alike⟩ := idle_line_preserves_run loads inside idle
  have finishes : jumping.FinishesAt 2 := ⟨by decide +kernel, by decide +kernel⟩
  have := load_worded loads nofun
  have runs : jumping.Runs (jumping.steps 2) (some (.reported ((Fault.memoryUndefined 5).atLine 2))) :=
    runs_iff.mpr ⟨2, finishes, rfl, by decide +kernel⟩
  obtain ⟨other, error?, ran⟩ := together.mp ⟨_, _, runs⟩
  have ends := alike _ _ _ _ runs ran
  have pc : other.status.pc = 2 := ends.pc.trans (by decide +kernel)
  rcases ends.error? with ⟨none, _⟩ | ⟨fault, named, same⟩
  · cases none
  · have diagnostic := Failure.reported.inj (Option.some.inj named)
    have kind : fault.kind = .memoryUndefined := (congrArg Diagnostic.kind diagnostic).symm
    rw [same, pc] at ran
    exact ⟨second, other, fault, reloads, ran, kind, pc⟩

end Machine
end RandomAccess
