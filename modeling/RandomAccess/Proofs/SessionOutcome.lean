import RandomAccess.CommandLine.Session
import RandomAccess.Proofs.ParsedOptions
import RandomAccess.Proofs.PrintedMemory
import RandomAccess.Proofs.TraceLifecycle

/-! How a session ends. It breaks off where a memory that it has to print holds a number that is too long, and in no
other way, because the step limit that its arguments spell out can always be written. A listing of the trace prints
only the cells that a step changes, but a number is among the changes of the step that first leaves it in the memory,
so the listing breaks off if any memory of the trace has such a number. A session that does not break off tells by its
exit code whether the last step was a halt. -/

namespace RandomAccess

namespace Printout

theorem complete_line (printout : Printout) (line? : Option String) :
    (printout.line line?).complete = (printout.complete && line?.isSome) := by
  obtain ⟨text, complete⟩ := printout
  cases complete with
  | false => rfl
  | true => cases line? <;> rfl

theorem complete_lines (printout : Printout) (lines : List (Option String)) :
    (printout.lines lines).complete = (printout.complete && lines.all Option.isSome) := by
  induction lines generalizing printout with
  | nil => simp [Printout.lines]
  | cons first rest ih =>
    have later := ih (printout.line first)
    rw [complete_line, Bool.and_assoc] at later
    exact later

end Printout

namespace Entry

theorem changeLines_printable_iff {changes : List Change} :
    (changeLines changes).all Option.isSome = true ↔ ∀ change ∈ changes, change.text?.isSome = true := by
  unfold changeLines
  rw [← isSome_mapM_iff]
  cases changes with
  | nil => simp
  | cons first rest => simp only [List.isEmpty_cons, Bool.false_eq_true, if_false, List.all_cons, List.all_nil,
      Option.isSome_map, Bool.and_true]

/-- Only the changes of a step can be too long to print. -/
theorem lines_printable_iff {earlier : Memory} (short : earlier.Representable) {entry : Entry} :
    (entry.lines earlier).all Option.isSome = true ↔ entry.memory.Representable := by
  have moves : entry.moveLines.all Option.isSome = true := by
    unfold moveLines
    split <;> rfl
  rw [← Memory.changes_printable_iff short, ← changeLines_printable_iff, lines]
  simp [moves]

end Entry

namespace Machine

theorem printSteps_incomplete {printout : Printout} (stopped : printout.complete = false) (earlier : Memory)
    (entries : List Entry) : (printSteps earlier printout entries).complete = false := by
  induction entries generalizing printout earlier with
  | nil => exact stopped
  | cons entry rest ih =>
    apply ih
    rw [Printout.complete_lines, stopped, Bool.false_and]

/-- The steps can be printed if and only if every memory that they leave can. -/
theorem printSteps_complete_iff {earlier : Memory} (short : earlier.Representable) {printout : Printout}
    {entries : List Entry} :
    (printSteps earlier printout entries).complete = true ↔
      printout.complete = true ∧ ∀ entry ∈ entries, entry.memory.Representable := by
  induction entries generalizing earlier printout with
  | nil => simp [printSteps]
  | cons entry rest ih =>
    rw [List.forall_mem_cons, printSteps]
    by_cases printable : entry.memory.Representable
    · rw [ih printable, Printout.complete_lines, Bool.and_eq_true, Entry.lines_printable_iff short]
      simp [printable]
    · have stopped : (printout.lines (entry.lines earlier)).complete = false := by
        rw [Printout.complete_lines, Bool.and_eq_false_iff]
        exact .inr (Bool.eq_false_iff.mpr fun printed => printable ((Entry.lines_printable_iff short).mp printed))
      rw [printSteps_incomplete stopped]
      simp [printable]

theorem finalLines_printable_iff {machine : Machine} :
    machine.finalLines.all Option.isSome = true ↔ machine.memory.Representable := by
  rw [← Memory.isSome_text?_iff]
  simp [finalLines, headingLines]

theorem printTrace_complete_iff {machine : Machine} {printout : Printout} :
    (machine.printTrace printout).complete = true ↔ printout.complete = true ∧
      (∀ entry ∈ machine.trace, entry.memory.Representable) ∧ machine.memory.Representable := by
  have heading : (headingLines "RAM EXECUTION TRACE").all Option.isSome = true := rfl
  rw [printTrace, Printout.complete_lines, Bool.and_eq_true, finalLines_printable_iff,
    printSteps_complete_iff Memory.representable_empty, Printout.complete_lines, heading, Printout.complete_line]
  simp [and_assoc]

/-- The last step on record has executed a halt. -/
def EndsInHalt (machine : Machine) : Prop :=
  ∃ entry, machine.trace.back? = some entry ∧ entry.error? = none ∧
    Statement.ofText entry.instruction = ⟨"HALT".toList, []⟩

theorem step_endsInHalt_iff {machine : Machine} [machine.Records] (running : machine.status.finished = false) :
    machine.step.1.EndsInHalt ↔ machine.step.1.status.halted = true := by
  simp only [Status.finished, Bool.or_eq_false_iff] at running
  have ends : machine.step.1.EndsInHalt ↔
      machine.report? = none ∧ Statement.ofText machine.instruction = ⟨"HALT".toList, []⟩ := by
    simp [EndsInHalt, step_trace, entry]
  rw [ends, ← outcome_halts_iff, report?_eq_none_iff, step_status]
  cases machine.outcome.next with
  | error fault => simp [advance, Status.fail, running]
  | ok move =>
    cases move <;> simp [advance, Status.move, Status.advance, Status.jump, Status.halt, Status.countStep, running]

/-- What the trace of a run says about its end: a run from the start makes at least one step, and the entry of the
last one has the final memory. -/
structure Concluded (final : Machine) : Prop where
  memory : ∃ entry ∈ final.trace, entry.memory = final.memory
  halted : final.EndsInHalt ↔ final.status.halted = true

theorem Fresh.concluded {start : Machine} [start.Worded] (fresh : start.Fresh) {count : Nat}
    (finishes : start.FinishesAt count) : (start.steps count).Concluded := by
  obtain ⟨last, rfl⟩ := finishes.exists_succ fresh.running
  refine ⟨⟨(start.steps last).entry, ?_, (step_memory _).symm⟩, step_endsInHalt_iff (finishes.running last (by omega))⟩
  rw [steps, step_trace]
  exact Array.mem_push_self

end Machine

namespace Session

/-- A number is too long in a memory that the session prints. -/
def Overlong (options : Options) (final : Machine) : Prop :=
  (options.trace = true ∧ ∃ entry ∈ final.trace, ¬ entry.memory.Representable) ∨
    (options.trace = false ∧ options.quiet = false ∧ ¬ final.memory.Representable)

theorem report_complete_iff (options : Options) {final : Machine} (concluded : final.Concluded) {printout : Printout}
    (printing : printout.complete = true) :
    (report options final printout).complete = true ↔ ¬ Overlong options final := by
  unfold report Overlong
  cases options.trace with
  | true =>
    obtain ⟨last, member, same⟩ := concluded.memory
    have whole : (∀ entry ∈ final.trace, entry.memory.Representable) → final.memory.Representable := by
      intro printable
      rw [← same]
      exact printable last member
    rw [if_pos rfl, Machine.printTrace_complete_iff, and_iff_left_of_imp whole]
    simp [printing]
  | false =>
    cases options.quiet with
    | true => simp [Printout.complete_lines, printing]
    | false => simp [Printout.complete_lines, printing, Memory.isSome_text?_iff]

/-- How a session may end after a run. -/
structure Ends (options : Options) (final : Machine) (ending : Ending) : Prop where
  breaks : (∃ failure, ending = .failure failure) ↔ Overlong options final
  reason : ∀ failure, ending = .failure failure → failure = .numberTooLong
  bare : options.trace = false → options.quiet = true → ∃ code, ending = .exit code
  exits : ∀ code, ending = .exit code → (code = 0 ↔ final.EndsInHalt) ∧ (code = 1 ↔ ¬ final.EndsInHalt)

theorem finish_ends {options : Options} {final : Machine} (concluded : final.Concluded) (error? : Option Diagnostic)
    (printed : String) : Ends options final (finish options final error? printed).ending := by
  have printing : (Printout.lines ⟨printed, true⟩ (errorLines error?)).complete = true := by
    cases error? <;> rfl
  have complete := report_complete_iff options concluded printing
  have ending : (finish options final error? printed).ending =
      if (report options final (Printout.lines ⟨printed, true⟩ (errorLines error?))).complete then
        .exit (if final.status.halted then 0 else 1)
      else .failure .numberTooLong := rfl
  rw [ending]
  split
  next whole =>
    refine ⟨by simp [complete.mp whole], by simp, fun _ _ => ⟨_, rfl⟩, ?_⟩
    intro code same
    obtain rfl := Ending.exit.inj same
    rw [concluded.halted]
    cases final.status.halted <;> simp
  next broken =>
    have long : Overlong options final := Classical.not_not.mp (mt complete.mpr broken)
    refine ⟨by simp [long], ?_, ?_, by simp⟩
    · intro failure same
      exact (Ending.failure.inj same).symm
    · intro plain quiet
      simp [Overlong, plain, quiet] at long

section Run

variable {options : Options} {found : Found} {standardInput : Text} {source : Text} {opening : String}

theorem start_of_opened (opens : openSource options found = .ok (source, opening)) (given : options.inputs ≠ .lost)
    (inputs : List Input) :
    start options found inputs = match Machine.load source inputs options.limit .absent with
      | .error diagnostic => .error ⟨opening ++ "Load error: " ++ diagnostic.render ++ "\n", .exit 1⟩
      | .ok machine => .ok (machine, opening ++ shownAll options.quiet (prompting options) machine.workspace.events.toList ++
          remark options.quiet (Printout.ruler '-' 60)) := by
  simp only [start, opens, if_neg given]
  rfl

theorem run_of_unloaded (opens : openSource options found = .ok (source, opening)) (given : options.inputs ≠ .lost)
    {diagnostic : Diagnostic}
    (unloaded : Machine.load source (inputs options standardInput) options.limit .absent = .error diagnostic) (fuel : Nat) :
    (run fuel options found standardInput).ending = .exit 1 := by
  simp only [run, start_of_opened opens given, unloaded]

/-- With enough fuel, a session whose machine comes to its end prints that end. -/
theorem run_of_loaded (opens : openSource options found = .ok (source, opening)) (given : options.inputs ≠ .lost)
    {machine final : Machine}
    (loads : Machine.load source (inputs options standardInput) options.limit .absent = .ok machine) {fuel : Nat}
    {error? : Option Machine.Failure} (returned : machine.runFor fuel = (final, error?)) :
    ∃ printed, run fuel options found standardInput = close options final error? printed := by
  simp only [run, start_of_opened opens given, loads, returned]
  exact ⟨_, rfl⟩

theorem close_reported (options : Options) (final : Machine) (error? : Option Diagnostic) (printed : String) :
    close options final (error?.map .reported) printed = finish options final error? printed := by
  cases error? <;> rfl

/-- The first step of a session escapes only if its limit is too long to be written, and negative. -/
theorem limit_worded {most : Int} (short : -(Numeral.bound : Int) < options.maxSteps) (limited : options.limit = some most) :
    -(Numeral.bound : Int) < most := by
  unfold Options.limit at limited
  split at limited <;> cases limited
  exact short

theorem limit_of_long (long : options.maxSteps ≤ -(Numeral.bound : Int)) : options.limit = some options.maxSteps := by
  have positive := Numeral.bound_pos
  exact if_neg (by omega)

/-- A session whose source does not load exits with 1. One whose run comes to an end breaks off if and only if it has
to print a number that is too long; otherwise it exits, with 0 exactly after a halt. No arguments spell out a step limit
that is itself too long, which would break off every run. -/
theorem ending_of_run (opens : openSource options found = .ok (source, opening)) (given : options.inputs ≠ .lost) :
    (∀ diagnostic, Machine.load source (inputs options standardInput) options.limit .absent = .error diagnostic →
      ∀ fuel, (run fuel options found standardInput).ending = .exit 1) ∧
    (∀ machine, Machine.load source (inputs options standardInput) options.limit .absent = .ok machine →
      ∀ final error?, machine.Runs final error? → ∃ enough, ∀ fuel, enough ≤ fuel →
        (-(Numeral.bound : Int) < options.maxSteps → Ends options final (run fuel options found standardInput).ending) ∧
        (options.maxSteps ≤ -(Numeral.bound : Int) →
          (run fuel options found standardInput).ending = .failure .numberTooLong)) ∧
    ∀ arguments, Options.parse arguments = .ok options → -(Numeral.bound : Int) < options.maxSteps := by
  refine ⟨fun diagnostic unloaded fuel => run_of_unloaded opens given unloaded fuel, ?_, ?_⟩
  · intro machine loads final error? runs
    by_cases short : -(Numeral.bound : Int) < options.maxSteps
    · have := Machine.load_worded loads fun _ => limit_worded short
      obtain ⟨count, finishes, rfl, _⟩ := Machine.runs_iff.mp runs
      refine ⟨count, fun fuel enough => ⟨fun _ => ?_, fun long => absurd short (Int.not_lt.mpr long)⟩⟩
      obtain ⟨printed, same⟩ := run_of_loaded opens given loads (Machine.runFor_of_finishesAt finishes enough)
      rw [same, close_reported]
      exact finish_ends ((Machine.load_fresh loads).concluded finishes) _ printed
    · have long := Int.not_lt.mp short
      have escapes : machine.Escapes := Machine.load_escapes loads (limit_of_long long) long
      refine ⟨1, fun fuel enough => ⟨fun other => absurd other short, fun _ => ?_⟩⟩
      obtain ⟨fuel, rfl⟩ := Nat.exists_eq_succ_of_ne_zero (show fuel ≠ 0 by omega)
      have returned := Machine.runFor_of_escapes (Machine.load_fresh loads).running escapes fuel
      obtain ⟨printed, same⟩ := run_of_loaded opens given loads returned
      rw [same]
      rfl
  · intro arguments parsed
    have spelled := Options.parse_spelled parsed
    unfold Options.Spelled Numeral.Representable at spelled
    omega

/-- The input is squared again and again, until no more steps are allowed. By then it is too long to be printed: the
trace breaks off, and a quiet session does not mind. -/
theorem ending_of_run_of_long_power :
    ∃ enough, ∀ fuel, enough ≤ fuel → ∀ trace,
      (run fuel
        { inline? := some "READ 0|again: MULT 0|JUMP again".toList, inputs := .listed "99".toList,
          maxSteps := 24, trace, quiet := true }
        .missing []).ending = if trace then .failure .numberTooLong else .exit 1 := by
  let options (trace : Bool) : Options :=
    { inline? := some "READ 0|again: MULT 0|JUMP again".toList, inputs := .listed "99".toList,
      maxSteps := 24, trace, quiet := true }
  let squaring := Machine.start (.ofLines [⟨1, "READ 0".toList, none, "READ 0".toList⟩,
    ⟨2, "again: MULT 0".toList, some "again".toList, "MULT 0".toList⟩,
    ⟨3, "JUMP again".toList, none, "JUMP again".toList⟩]) [.text "99".toList] (some 24) .absent
  have opens (trace : Bool) : openSource (options trace) .missing = .ok ("READ 0\nagain: MULT 0\nJUMP again".toList, "") := rfl
  have loads (trace : Bool) : Machine.load "READ 0\nagain: MULT 0\nJUMP again".toList (inputs (options trace) [])
      (options trace).limit .absent = .ok squaring := rfl
  have finishes : squaring.FinishesAt 25 := ⟨by decide +kernel, by decide +kernel⟩
  have := Machine.load_worded (loads true) (by decide +kernel)
  have runs : squaring.Runs (squaring.steps 25) ((squaring.lastReport? 25).map .reported) :=
    Machine.runs_iff.mpr ⟨25, finishes, rfl, rfl⟩
  have short (trace : Bool) : -(Numeral.bound : Int) < (options trace).maxSteps := by
    cases trace <;> decide +kernel
  have ends (trace : Bool) := (ending_of_run (opens trace) (nomatch ·)).2.1 _ (loads trace) _ _ runs
  obtain ⟨first, plain⟩ := ends false
  obtain ⟨second, traced⟩ := ends true
  refine ⟨max first second, ?_⟩
  intro fuel enough trace
  cases trace with
  | false =>
    have ending := (plain fuel (by omega)).1 (short false)
    have goes : ¬ (squaring.steps 25).EndsInHalt := by
      intro halts
      obtain ⟨entry, last, succeeds, _⟩ := halts
      have failed : (squaring.steps 25).trace.back?.bind Entry.error? ≠ none := by decide +kernel
      rw [last] at failed
      exact failed succeeds
    obtain ⟨code, exits⟩ := ending.bare rfl rfl
    exact exits.trans (congrArg Ending.exit ((ending.exits code exits).2.mpr goes))
  | true =>
    have ending := (traced fuel (by omega)).1 (short true)
    have long : Overlong (options true) (squaring.steps 25) := .inl ⟨rfl, by decide +kernel⟩
    obtain ⟨failure, broken⟩ := ending.breaks.mpr long
    exact broken.trans (congrArg Ending.failure (ending.reason failure broken))

end Run

end Session
end RandomAccess
