import RandomAccess.Proofs.CounterRange
import RandomAccess.Proofs.StepConsequences
import RandomAccess.Proofs.StepLimit

/-! What a panel shows, whichever way its machine is driven. The step limit brings every run to an end, so running
always leaves a finished machine. Steps made one by one are steps of the run: as long as none of them has failed,
running on from there ends where running at once ends. The console shows errors after all output, and still it only
grows, because a machine with an error on record puts nothing out any more. -/

namespace RandomAccess

namespace Machine

variable {machine : Machine}

/-- A limited machine finishes with the attempt after the last step that the limit allows, if it has not before. -/
theorem Fresh.finishes_within_limit [machine.Worded] (fresh : machine.Fresh) {limit : Nat}
    (limited : machine.limit = some (limit : Int)) : ∃ count, count ≤ limit + 1 ∧ machine.FinishesAt count := by
  have finished : (machine.steps (limit + 1)).status.finished = true := by
    cases running : (machine.steps limit).status.finished with
    | true => exact (settled_step running).still
    | false =>
      have reached : (limit : Int) ≤ (machine.steps limit).status.stepCount :=
        Int.le_of_eq (fresh.stepCount_of_running running).symm
      have refused : fetch (machine.steps limit).program (machine.steps limit).limit (machine.steps limit).status =
          .error (.stepLimit limit) := by
        rw [steps_limit, limited]
        exact fetch_at running reached
      have raised : (machine.steps limit).report? =
          some ((Fault.stepLimit limit).atLine (machine.steps limit).status.line) := by
        rw [report?, outcome_of_refused refused]
      exact finished_of_report raised
  exact exists_finishesAt finished

theorem FinishesAt.from_step {early rest : Nat} (finishes : machine.FinishesAt (early + rest)) :
    (machine.steps early).FinishesAt rest := by
  refine ⟨?_, ?_⟩
  · rw [steps_add]
    exact finishes.finished
  · intro earlier less
    rw [steps_add]
    exact finishes.running (early + earlier) (by omega)

theorem errored_of_lastReport? [machine.Worded] {count : Nat} {diagnostic : Diagnostic}
    (raised : machine.lastReport? count = some diagnostic) : (machine.steps count).status.errored = true := by
  cases count with
  | zero => cases raised
  | succ count =>
    obtain ⟨fault, failed, _⟩ := report?_eq_some_iff.mp raised
    rw [steps, step_status, failed]
    rfl

/-- An attempt past the end of a run is an error. -/
theorem FinishesAt.le_of_unfailed {count attempts : Nat} (finishes : machine.FinishesAt count)
    (unfailed : (machine.steps attempts).status.errored = false) : attempts ≤ count := by
  apply Nat.le_of_not_lt
  intro past
  obtain ⟨before, rfl⟩ := Nat.exists_eq_succ_of_ne_zero (show attempts ≠ 0 by omega)
  have settled := settled_between finishes.finished (show count ≤ before by omega)
  have := records_of_finished settled.still
  rw [steps, step_status, outcome_of_finished settled.still] at unfailed
  cases unfailed

theorem lastReport?_from_step [machine.Worded] {early rest : Nat} (finishes : machine.FinishesAt (early + rest))
    (unfailed : (machine.steps early).status.errored = false) :
    (machine.steps early).lastReport? rest = machine.lastReport? (early + rest) := by
  cases rest with
  | zero =>
    -- The run has ended without an error, so there is none to be reported either way.
    cases raised : machine.lastReport? early with
    | none => rfl
    | some diagnostic => exact absurd (errored_of_lastReport? raised) (by simp [unfailed])
  | succ rest =>
    rw [lastReport?, steps_add]
    rfl

/-- Running on after some steps comes to the same as running at once, unless one of them has failed. -/
theorem runFor_from_step [machine.Worded] {count attempts fuel : Nat} (finishes : machine.FinishesAt count)
    (enough : count ≤ fuel) (unfailed : (machine.steps attempts).status.errored = false) :
    (machine.steps attempts).runFor fuel = machine.runFor fuel := by
  obtain ⟨rest, rfl⟩ := Nat.exists_eq_add_of_le (finishes.le_of_unfailed unfailed)
  rw [runFor_of_finishesAt finishes.from_step (by omega), runFor_of_finishesAt finishes enough, steps_add,
    lastReport?_from_step finishes unfailed]

/-- From any attempt on, a run leaves a finished machine, which may be the one that it was given. -/
theorem runFor_after [machine.Worded] {count fuel : Nat} (finishes : machine.FinishesAt count) (enough : count ≤ fuel)
    (attempts : Nat) : ∃ more, ((machine.steps attempts).runFor fuel).1 = machine.steps (attempts + more) ∧
      (machine.steps (attempts + more)).status.finished = true := by
  rcases Nat.le_total attempts count with before | past
  · obtain ⟨rest, rfl⟩ := Nat.exists_eq_add_of_le before
    refine ⟨rest, ?_, finishes.finished⟩
    rw [runFor_of_finishesAt finishes.from_step (by omega), steps_add]
  · have finished := (settled_between finishes.finished past).still
    exact ⟨0, congrArg Prod.fst (runFor_of_finished finished fuel), finished⟩

/-- Errors are only on record once the machine has finished. -/
def SoundUntilFinished (machine : Machine) : Prop :=
  machine.status.finished = false → machine.errors = []

theorem SoundUntilFinished.step (machine : Machine) (sound : machine.SoundUntilFinished) :
    machine.step.1.SoundUntilFinished := by
  rcases machine.escapes_or_records with escapes | _
  · rw [step_of_escapes escapes]
    exact sound
  intro running
  rw [step_errors]
  cases raised : machine.report? with
  | some diagnostic => exact absurd (finished_of_report raised) (by simp [running])
  | none => simp [sound (running_of_succeeds raised)]

theorem consoleLines_step (sound : machine.SoundUntilFinished) :
    Panel.consoleLines machine <+: Panel.consoleLines machine.step.1 := by
  rcases machine.escapes_or_records with escapes | _
  · rw [step_of_escapes escapes]
    exact List.prefix_refl _
  unfold Panel.consoleLines
  rw [step_errors, List.map_append]
  cases finished : machine.status.finished with
  | true =>
    rw [(settled_step finished).output, ← List.append_assoc]
    exact List.prefix_append _ _
  | false =>
    have output : machine.step.1.workspace.output.toList =
        machine.workspace.output.toList ++ machine.consequence.output := by
      rw [step_workspace, Array.toList_appendList]
    rw [sound finished, output, List.map_nil, List.append_nil, List.nil_append, List.append_assoc]
    exact List.prefix_append _ _

theorem consoleLines_steps (sound : machine.SoundUntilFinished) (early more : Nat) :
    Panel.consoleLines (machine.steps early) <+: Panel.consoleLines (machine.steps (early + more)) := by
  induction more with
  | zero => exact List.prefix_refl _
  | succ more ih =>
    exact ih.trans (consoleLines_step (steps_invariant SoundUntilFinished.step sound (early + more)))

end Machine

namespace Panel

/-- What may be asked of a panel with a program on it. -/
inductive Button where
  | step
  | run
  deriving DecidableEq, Repr

def press (panel : Panel) : Button → Panel × Option Screen
  | .step => panel.step
  | .run => panel.run

/-- The panel after some buttons, and what the last of them has shown. -/
def pressAll (shown : Panel × Option Screen) (buttons : List Button) : Panel × Option Screen :=
  buttons.foldl (fun shown button => shown.1.press button) shown

/-- The lines of the console, as they can be told from the text that is shown. -/
def Screen.lines (screen : Screen) : List Text :=
  screen.console.toList.splitOn '\n'

theorem pressAll_append (shown : Panel × Option Screen) (earlier later : List Button) :
    pressAll shown (earlier ++ later) = pressAll (pressAll shown earlier) later :=
  List.foldl_append

theorem press_step (machine : Machine) [machine.Records] :
    (⟨some machine⟩ : Panel).press .step = (⟨some machine.step.1⟩, screen? machine.step.1 machine.report?) := by
  simp only [press, step]
  rw [Machine.step_eq]
  cases machine.report? <;> rfl

theorem press_run (machine : Machine) :
    (⟨some machine⟩ : Panel).press .run =
      (⟨some (machine.runFor (stepLimit + 1)).1⟩,
        answer? (machine.runFor (stepLimit + 1)).1 (machine.runFor (stepLimit + 1)).2) := rfl

theorem console_eq {machine : Machine} {error? : Option Diagnostic} {screen : Screen}
    (shown : screen? machine error? = some screen) : screen.console = "\n".intercalate (consoleLines machine) := by
  obtain ⟨_, _, same⟩ := Option.bind_eq_some_iff.mp shown
  cases same
  rfl

theorem console_of_answer {machine : Machine} {error? : Option Machine.Failure} {screen : Screen}
    (shown : answer? machine error? = some screen) : screen.console = "\n".intercalate (consoleLines machine) := by
  unfold answer? at shown
  split at shown
  · exact console_eq shown
  · exact console_eq shown
  · cases shown

/-- Lines added to a console are lines added to its text, whatever the lines are. -/
theorem splitOn_intercalate_prefix {earlier later : List String} (nonempty : earlier ≠ []) (grows : earlier <+: later) :
    ("\n".intercalate earlier).toList.splitOn '\n' <+: ("\n".intercalate later).toList.splitOn '\n' := by
  obtain ⟨added, rfl⟩ := grows
  by_cases none : added = []
  · subst none
    exact ⟨[], by rw [List.append_nil, List.append_nil]⟩
  · rw [String.intercalate_append_of_ne_nil nonempty none, String.toList_append, String.toList_append, List.append_assoc]
    change _ <+: List.splitOn '\n' (_ ++ '\n' :: _)
    rw [List.splitOn_append_cons_self]
    exact List.prefix_append _ _

/-- What is shown of a machine after some attempts. -/
structure ShowsSteps (start : Machine) (made : Nat) (shown : Panel × Option Screen) : Prop where
  machine : shown.1 = ⟨some (start.steps made)⟩
  console : ∀ screen, shown.2 = some screen → screen.console = "\n".intercalate (consoleLines (start.steps made))

section Loaded

variable {start : Machine} [start.Worded] {count : Nat} (finishes : start.FinishesAt count) (within : count ≤ stepLimit + 1)
include finishes within

theorem ShowsSteps.press {made : Nat} {shown : Panel × Option Screen} (showing : ShowsSteps start made shown)
    (button : Button) : ∃ more, ShowsSteps start (made + more) (shown.1.press button) := by
  rw [showing.machine]
  cases button with
  | step =>
    refine ⟨1, by rw [press_step]; rfl, ?_⟩
    intro screen found
    rw [press_step] at found
    exact console_eq found
  | run =>
    obtain ⟨more, same, _⟩ := Machine.runFor_after finishes within made
    refine ⟨more, by rw [press_run, same], ?_⟩
    intro screen found
    rw [press_run, same] at found
    exact console_of_answer found

theorem ShowsSteps.pressAll {made : Nat} {shown : Panel × Option Screen} (showing : ShowsSteps start made shown)
    (buttons : List Button) : ∃ more, ShowsSteps start (made + more) (pressAll shown buttons) := by
  induction buttons generalizing made shown with
  | nil => exact ⟨0, showing⟩
  | cons button rest ih =>
    obtain ⟨first, pressed⟩ := showing.press finishes within button
    obtain ⟨more, later⟩ := ih pressed
    exact ⟨first + more, by rwa [← Nat.add_assoc]⟩

end Loaded

theorem pressAll_replicate_step {machine : Machine} [machine.Worded] {shown : Panel × Option Screen}
    (holds : shown.1 = ⟨some machine⟩) (count : Nat) :
    (pressAll shown (List.replicate count .step)).1 = ⟨some (machine.steps count)⟩ := by
  induction count with
  | zero => exact holds
  | succ count ih =>
    rw [List.replicate_succ', pressAll_append]
    change ((pressAll shown (List.replicate count .step)).1.press .step).1 = _
    rw [ih, press_step]
    rfl

/-- What is so of a machine that a panel has loaded. -/
structure Loaded (machine : Machine) : Prop where
  worded : machine.Worded
  ends : ∃ count, count ≤ stepLimit + 1 ∧ machine.FinishesAt count
  sound : machine.SoundUntilFinished
  ready : consoleLines machine ≠ []

theorem load_loaded {source inputs : Text} {machine : Machine} (loads : (load source inputs).1 = ⟨some machine⟩) :
    Loaded machine ∧ ShowsSteps machine 0 (load source inputs) := by
  unfold load at loads ⊢
  cases loaded : Machine.load source ((Text.listed inputs).map .text) (some stepLimit) .absent with
  | error diagnostic => simp [loaded] at loads
  | ok other =>
    simp only [loaded, Panel.mk.injEq, Option.some.injEq] at loads
    subst loads
    have fresh := Machine.load_fresh loaded
    have worded : other.Worded := Machine.load_worded loaded (by decide +kernel)
    obtain ⟨program, _, rfl⟩ := Machine.load_eq_ok loaded
    refine ⟨⟨worded, fresh.finishes_within_limit rfl, fun _ => rfl, List.cons_ne_nil _ _⟩, rfl, ?_⟩
    intro screen (found : screen? _ none = some screen)
    exact console_eq found

namespace Loaded

variable {start : Machine} (loaded : Loaded start)
include loaded

theorem console_grows {made more : Nat} {before after : Panel × Option Screen} (earlier : ShowsSteps start made before)
    (later : ShowsSteps start (made + more) after) {first second : Screen} (shown : before.2 = some first)
    (next : after.2 = some second) : first.lines <+: second.lines := by
  have nonempty : consoleLines (start.steps made) ≠ [] := by
    have begins := Machine.consoleLines_steps loaded.sound 0 made
    rw [Nat.zero_add] at begins
    intro empty
    rw [empty] at begins
    exact loaded.ready (List.prefix_nil.mp begins)
  rw [Screen.lines, Screen.lines, earlier.console first shown, later.console second next]
  exact splitOn_intercalate_prefix nonempty (Machine.consoleLines_steps loaded.sound made more)

theorem run_from_step {attempts : Nat} (unfailed : (start.steps attempts).status.errored = false) :
    (⟨some (start.steps attempts)⟩ : Panel).press .run = (⟨some start⟩ : Panel).press .run := by
  have := loaded.worded
  obtain ⟨count, within, finishes⟩ := loaded.ends
  rw [press_run, press_run, Machine.runFor_from_step finishes within unfailed]

theorem run_finishes {made : Nat} {shown : Panel × Option Screen} (showing : ShowsSteps start made shown) :
    ∃ final, (shown.1.press .run).1 = ⟨some final⟩ ∧ final.status.finished = true := by
  have := loaded.worded
  obtain ⟨count, within, finishes⟩ := loaded.ends
  obtain ⟨more, same, finished⟩ := Machine.runFor_after finishes within made
  exact ⟨_, by rw [showing.machine, press_run, same], finished⟩

end Loaded

/-- Whatever is asked of a panel with a program on it, some steps and a run come to the same as a run, every run leaves
a finished machine, and every console that is shown is the one shown before with lines added to it. -/
theorem stepping_agrees_with_running {source inputs : Text} {machine : Machine}
    (loads : (load source inputs).1 = ⟨some machine⟩) :
    (∀ count stepped, (pressAll (load source inputs) (List.replicate count .step)).1 = ⟨some stepped⟩ →
      stepped.status.errored = false →
      pressAll (load source inputs) (List.replicate count .step ++ [.run]) = pressAll (load source inputs) [.run]) ∧
    (∀ buttons, ∃ final, (pressAll (load source inputs) (buttons ++ [.run])).1 = ⟨some final⟩ ∧
      final.status.finished = true) ∧
    (∀ earlier later, ∃ before after, (pressAll (load source inputs) earlier).1 = ⟨some before⟩ ∧
      (pressAll (load source inputs) (earlier ++ later)).1 = ⟨some after⟩ ∧ consoleLines before <+: consoleLines after) ∧
    ∀ earlier later first second, (pressAll (load source inputs) earlier).2 = some first →
      (pressAll (load source inputs) (earlier ++ later)).2 = some second → first.lines <+: second.lines := by
  obtain ⟨loaded, opening⟩ := load_loaded loads
  have := loaded.worded
  obtain ⟨count, within, finishes⟩ := loaded.ends
  have between (earlier later : List Button) : ∃ made more,
      ShowsSteps machine made (pressAll (load source inputs) earlier) ∧
      ShowsSteps machine (made + more) (pressAll (load source inputs) (earlier ++ later)) := by
    obtain ⟨made, before⟩ := opening.pressAll finishes within earlier
    obtain ⟨more, after⟩ := before.pressAll finishes within later
    exact ⟨0 + made, more, before, by rwa [pressAll_append]⟩
  refine ⟨?_, ?_, ?_, ?_⟩
  · intro attempts stepped holds unfailed
    have made := pressAll_replicate_step loads attempts
    obtain rfl : machine.steps attempts = stepped := Option.some.inj (Panel.mk.inj (made.symm.trans holds))
    rw [pressAll_append]
    change (pressAll (load source inputs) (List.replicate attempts .step)).1.press .run = (load source inputs).1.press .run
    rw [made, loads, loaded.run_from_step unfailed]
  · intro buttons
    obtain ⟨made, _, before, _⟩ := between buttons []
    rw [pressAll_append]
    exact loaded.run_finishes before
  · intro earlier later
    obtain ⟨made, more, before, after⟩ := between earlier later
    exact ⟨_, _, before.machine, after.machine, Machine.consoleLines_steps loaded.sound made more⟩
  · intro earlier later first second shown next
    obtain ⟨made, more, before, after⟩ := between earlier later
    exact loaded.console_grows before after shown next

/-- Two steps that read a number and write it, and then the run to the halt. -/
theorem stepping_agrees_with_running_of_two_steps :
    ∃ machine stepped, (load "READ 1\nWRITE 1\nHALT".toList " 7,".toList).1 = ⟨some machine⟩ ∧
      (pressAll (load "READ 1\nWRITE 1\nHALT".toList " 7,".toList) [.step, .step]).1 = ⟨some stepped⟩ ∧
      stepped.status.errored = false ∧
      pressAll (load "READ 1\nWRITE 1\nHALT".toList " 7,".toList) [.step, .step, .run] =
        pressAll (load "READ 1\nWRITE 1\nHALT".toList " 7,".toList) [.run] := by
  let reading := Machine.start (.ofLines [⟨1, "READ 1".toList, none, "READ 1".toList⟩,
    ⟨2, "WRITE 1".toList, none, "WRITE 1".toList⟩, ⟨3, "HALT".toList, none, "HALT".toList⟩]) [.text "7".toList]
    (some stepLimit) .absent
  have loads : (load "READ 1\nWRITE 1\nHALT".toList " 7,".toList).1 = ⟨some reading⟩ := rfl
  have := (load_loaded loads).1.worded
  have unfailed : (reading.steps 2).status.errored = false := by decide +kernel
  have stepped : (pressAll (load "READ 1\nWRITE 1\nHALT".toList " 7,".toList) (List.replicate 2 .step)).1 =
      ⟨some (reading.steps 2)⟩ := pressAll_replicate_step loads 2
  exact ⟨reading, _, loads, stepped, unfailed, (stepping_agrees_with_running loads).1 2 _ stepped unfailed⟩

end Panel
end RandomAccess
