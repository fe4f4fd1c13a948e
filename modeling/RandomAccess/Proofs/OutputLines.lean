import RandomAccess.CommandLine.Session
import RandomAccess.Proofs.StepConsequences
import RandomAccess.Proofs.TraceLifecycle

/-! What a machine puts out: that it is ready, then one numeral for each number that was written, and at the halt
two lines more. The numerals have digits and those two lines have none, so leaving these out by their text leaves
exactly the numbers. A run whose error escapes has put out none. -/

namespace RandomAccess

/-- What a statement may put out on a memory, and how it may go on from there. -/
inductive Statement.Puts (memory : Memory) : Statement → List String → Except Fault Move → Prop where
  | number {token : Text} {value : Int} (held : (Operand.ofToken token).value memory = .ok value) :
      Puts memory ⟨"WRITE".toList, [token]⟩ [toString value] (.ok .advance)
  | farewell : Puts memory ⟨"HALT".toList, []⟩ Command.haltMessages (.ok .halt)
  | nothing {statement : Statement} {move : Move} (silent : ∀ token, statement ≠ ⟨"WRITE".toList, [token]⟩)
      (goes : move ≠ .halt) : Puts memory statement [] (.ok move)
  | failed {statement : Statement} {fault : Fault} : Puts memory statement [] (.error fault)

namespace Statement

variable {program : Program} {memory : Memory} {observer : Observer} {statement : Statement}

theorem Puts.of_effect {effect : Effect} (silent : ∀ token, statement ≠ ⟨"WRITE".toList, [token]⟩)
    (output : effect.output = []) (next : effect.next ≠ .ok .halt) :
    statement.Puts memory (effect.consequence observer memory).output (effect.consequence observer memory).next := by
  unfold Effect.consequence
  cases effect.refusal? observer memory with
  | some fault => exact .failed
  | none =>
    simp only [output]
    cases goes : effect.next with
    | error fault => exact .failed
    | ok move =>
      apply Puts.nothing silent
      rintro rfl
      exact next goes

theorem puts_write (input : Input) (token : Text) :
    Puts memory ⟨"WRITE".toList, [token]⟩
      ((Command.write (.ofToken token)).performed program memory observer input).output
      ((Command.write (.ofToken token)).performed program memory observer input).next := by
  unfold Command.performed
  cases done : (Command.write (.ofToken token)).effect program memory input with
  | error fault => exact .failed
  | ok effect =>
    obtain ⟨value, held, same⟩ := bind_eq_ok.mp done
    split at same <;> cases same
    next text written =>
      obtain ⟨_, rfl⟩ := Numeral.text?_eq_some_iff.mp written
      rw [Numeral.ofList_write]
      exact .number held

theorem puts_silent {input : Input} {command : Command} (silent : ∀ token, statement ≠ ⟨"WRITE".toList, [token]⟩)
    (other : ∀ source, command ≠ .write source) (running : command ≠ .halt) :
    statement.Puts memory (command.performed program memory observer input).output
      (command.performed program memory observer input).next := by
  unfold Command.performed
  cases done : command.effect program memory input with
  | error fault => exact .failed
  | ok effect =>
    have next : effect.next ≠ .ok .halt := fun halts => running (Command.effect_halts done halts)
    apply Puts.of_effect silent ?_ next
    rcases Command.effect_cases done with ⟨_, _, _, rfl⟩ | ⟨_, _, rfl⟩ | ⟨source, _, same, _⟩ | ⟨same, _⟩ |
      ⟨_, _, _, _, _, _, _, _, rfl⟩
    · rfl
    · rfl
    · exact absurd same (other source)
    · exact absurd same running
    · rfl

theorem consequence_puts (input : Input) :
    statement.Puts memory (statement.consequence program memory observer input).output
      (statement.consequence program memory observer input).next := by
  unfold consequence
  cases decoded : InstructionSet.standard.decode statement with
  | error fault => exact .failed
  | ok command =>
    -- Whether or not the command has asked for an input, it puts out what it does with the input it is given.
    have performed : ∃ given, (command.consequence program memory observer input).output =
        (command.performed program memory observer given).output ∧
        (command.consequence program memory observer input).next =
        (command.performed program memory observer given).next := by
      unfold Command.consequence
      split
      · exact ⟨input, rfl, rfl⟩
      · exact ⟨.cancel, rfl, rfl⟩
    obtain ⟨given, output, next⟩ := performed
    simp only [output, next]
    by_cases writes : ∃ token, statement = ⟨"WRITE".toList, [token]⟩
    · obtain ⟨token, rfl⟩ := writes
      cases decoded
      exact puts_write given token
    · by_cases halts : statement = ⟨"HALT".toList, []⟩
      · subst halts
        cases decoded
        exact .farewell
      · apply puts_silent
        · intro token same
          exact writes ⟨token, same⟩
        · rintro source rfl
          rcases InstructionSet.decode_eq_ok decoded with ⟨_, impossible⟩ | ⟨written, _⟩
          · cases impossible
          · exact writes ⟨source.token, written.symm⟩
        · rintro rfl
          rcases InstructionSet.decode_eq_ok decoded with ⟨_, impossible⟩ | ⟨written, _⟩
          · cases impossible
          · exact halts written.symm

end Statement

/-- The numbers that the steps on record have written, and the memory that the last of them left. A number is the
value of its operand in the memory that the step before it left. -/
inductive Written : List Entry → Memory → List Int → Prop where
  | nothing : Written [] .empty []
  | number {entries : List Entry} {memory : Memory} {values : List Int} {entry : Entry} {token : Text} {value : Int}
      (earlier : Written entries memory values) (succeeds : entry.error? = none)
      (writes : Statement.ofText entry.instruction = ⟨"WRITE".toList, [token]⟩)
      (held : (Operand.ofToken token).value memory = .ok value) :
      Written (entries ++ [entry]) entry.memory (values ++ [value])
  | other {entries : List Entry} {memory : Memory} {values : List Int} {entry : Entry}
      (earlier : Written entries memory values)
      (silent : entry.error? = none → ∀ token, Statement.ofText entry.instruction ≠ ⟨"WRITE".toList, [token]⟩) :
      Written (entries ++ [entry]) entry.memory values

namespace Machine

theorem consequence_puts (machine : Machine) :
    (Statement.ofText machine.instruction).Puts machine.memory machine.consequence.output machine.consequence.next := by
  rw [instruction_eq]
  unfold consequence
  cases machine.fetched with
  | error fault => exact .failed
  | ok text => exact Statement.consequence_puts _

/-- The lines put out so far, with the numbers among them. -/
structure Outputs (machine : Machine) (values : List Int) : Prop where
  written : Written machine.trace.toList machine.memory values
  lines : machine.workspace.output.toList =
    readyMessage :: values.map toString ++ if machine.status.halted then Command.haltMessages else []

theorem running_of_goes {machine : Machine} {move : Move} (goes : machine.consequence.next = .ok move) :
    machine.report? = none ∧ machine.status.halted = false := by
  have succeeds : machine.report? = none := report?_eq_none_iff.mpr ⟨move, by rw [outcome_next, goes]⟩
  have running := running_of_succeeds succeeds
  simp only [Status.finished, Bool.or_eq_false_iff] at running
  exact ⟨succeeds, running.1⟩

theorem Outputs.step {machine : Machine} {values : List Int} (outputs : machine.Outputs values) :
    ∃ values, machine.step.1.Outputs values := by
  obtain ⟨written, lines⟩ := outputs
  rcases machine.escapes_or_records with escapes | _
  · rw [step_of_escapes escapes]
    exact ⟨values, written, lines⟩
  have puts := consequence_puts machine
  have trace : machine.step.1.trace.toList = machine.trace.toList ++ [machine.entry] := by
    rw [step_trace, Array.toList_push]
  have memory : machine.step.1.memory = machine.entry.memory := step_memory machine
  have output : machine.step.1.workspace.output.toList = machine.workspace.output.toList ++ machine.consequence.output := by
    rw [step_workspace, Array.toList_appendList]
  have status : machine.step.1.status = advance machine.status machine.consequence.next := by
    rw [step_status, outcome_next]
  generalize text : Statement.ofText machine.instruction = statement at puts
  generalize machine.consequence.output = put at puts output
  generalize goes : machine.consequence.next = next at puts status
  cases puts with
  | @number token value held =>
    obtain ⟨succeeds, running⟩ := running_of_goes goes
    refine ⟨values ++ [value], ?_, ?_⟩
    · rw [trace, memory]
      exact .number written succeeds text held
    · rw [output, lines, status]
      simp [running, advance, Status.move, Status.advance, Status.countStep]
  | farewell =>
    obtain ⟨_, running⟩ := running_of_goes goes
    refine ⟨values, ?_, ?_⟩
    · rw [trace, memory]
      apply Written.other written
      intro _ token other
      cases text.symm.trans other
    · rw [output, lines, status]
      simp [running, advance, Status.move, Status.halt, Status.countStep]
  | @nothing _ move silent other =>
    obtain ⟨_, running⟩ := running_of_goes goes
    refine ⟨values, ?_, ?_⟩
    · rw [trace, memory]
      apply Written.other written
      intro _ token same
      exact silent token (text.symm.trans same)
    · rw [output, lines, status, List.append_nil]
      cases move with
      | halt => exact absurd rfl other
      | advance | jump => rfl
  | failed =>
    refine ⟨values, ?_, ?_⟩
    · rw [trace, memory]
      apply Written.other written
      intro succeeds
      have failed : machine.report? = none := succeeds
      simp [Machine.report?, outcome_next, goes] at failed
    · rw [output, lines, status, List.append_nil]
      rfl

theorem load_outputs {source : Text} {inputs : List Input} {limit : Option Int} {observer : Observer} {machine : Machine}
    (loads : load source inputs limit observer = .ok machine) : machine.Outputs [] := by
  obtain ⟨program, _, rfl⟩ := load_eq_ok loads
  exact ⟨.nothing, rfl⟩

theorem Driven.outputs {source : Text} {inputs : List Input} {limit : Option Int} {observer : Observer}
    {start final : Machine} {calls : List Call} (loads : load source inputs limit observer = .ok start)
    (driven : start.Driven calls final) : ∃ values, final.Outputs values := by
  have kept : ∀ machine : Machine, (∃ values, machine.Outputs values) → ∃ values, machine.step.1.Outputs values := by
    intro machine outputs
    obtain ⟨values, outputs⟩ := outputs
    exact outputs.step
  exact driven.invariant kept ⟨[], load_outputs loads⟩

end Machine

theorem Numeral.digit_mem_write (n : Int) : ∃ c ∈ write n, c.isDigit = true := by
  obtain ⟨c, rest, digits⟩ := List.exists_cons_of_ne_nil (Nat.toDigits_ne_nil (n := n.natAbs) (b := 10))
  have member : c ∈ Nat.toDigits 10 n.natAbs := by
    rw [digits]
    exact List.mem_cons_self
  refine ⟨c, ?_, Nat.isDigit_of_mem_toDigits (by omega) (by omega) member⟩
  unfold write
  split
  · exact List.mem_cons_of_mem _ member
  · exact member

theorem toString_notMem_haltMessages (value : Int) : toString value ∉ Command.haltMessages := by
  intro member
  have plain : Command.haltMessages.all (fun line => line.toList.all (!·.isDigit)) = true := by decide
  simp only [List.all_eq_true] at plain
  obtain ⟨c, inside, digit⟩ := Numeral.digit_mem_write value
  rw [← Numeral.ofList_write] at member
  have other := plain _ member c (by rwa [String.toList_ofList])
  simp [digit] at other

theorem Machine.Outputs.filter {machine : Machine} {values : List Int} (outputs : machine.Outputs values) :
    machine.output.filter (fun text => !Command.haltMessages.contains text) = values.map toString := by
  have output : machine.output = values.map toString ++ if machine.status.halted then Command.haltMessages else [] := by
    rw [Machine.output, outputs.lines]
    rfl
  have numbers : (values.map toString).filter (fun text => !Command.haltMessages.contains text) = values.map toString := by
    apply List.filter_eq_self.mpr
    intro text member
    obtain ⟨value, _, rfl⟩ := List.mem_map.mp member
    simpa using toString_notMem_haltMessages value
  rw [output, List.filter_append, numbers]
  split
  · have none : Command.haltMessages.filter (fun text => !Command.haltMessages.contains text) = [] := by decide
    rw [none, List.append_nil]
  · exact List.append_nil _

theorem Printout.lines_some (text : String) (texts : List String) :
    Printout.lines ⟨text, true⟩ (texts.map some) = ⟨text ++ String.join (texts.map (· ++ "\n")), true⟩ := by
  induction texts generalizing text with
  | nil => simp [lines]
  | cons first rest ih =>
    have printed := ih (text ++ first ++ "\n")
    simp only [lines, List.map_cons, List.foldl_cons, line, String.join_cons] at printed ⊢
    rw [printed, String.append_assoc, String.append_assoc, String.append_assoc]

/-- The report that an error is, unless it escaped. -/
def Machine.Failure.diagnostic? : Machine.Failure → Option Diagnostic
  | .reported diagnostic => some diagnostic
  | .escaped _ => none

namespace Session

/-- Quiet, without a trace, and with the inputs listed. -/
structure Bare (options : Options) : Prop where
  quiet : options.quiet = true
  plain : options.trace = false
  listed : ∃ values, options.inputs = .listed values

/-- The error that ended a run, if one did, and the numbers, each on a line of its own. -/
def bareText (error? : Option Diagnostic) (values : List Int) : String :=
  String.join (((error?.map fun diagnostic => "Execution error: " ++ diagnostic.render).toList ++
    values.map toString).map (· ++ "\n"))

/-- A session breaks off only at an error that escaped its run. -/
def bareEnding (final : Machine) : Option Machine.Failure → Ending
  | some (.escaped _) => .failure .numberTooLong
  | none | some (.reported _) => .exit (if final.status.halted then 0 else 1)

theorem shownAll_quiet (events : List Event) : shownAll true false events = "" := by
  induction events with
  | nil => rfl
  | cons event events ih =>
    have first : shown true false event = "" := by cases event <;> rfl
    rw [shownAll, List.map_cons, String.join_cons, first]
    exact ih

theorem openSource_quiet {options : Options} (quiet : options.quiet = true) {found : Found} {source : Text}
    {opening : String} (opens : openSource options found = .ok (source, opening)) : opening = "" := by
  have silent (line : String) : remark options.quiet line = "" := by
    rw [quiet]
    rfl
  unfold openSource at opens
  simp only [silent] at opens
  split at opens
  · split at opens <;> cases opens
    rfl
  · cases opens
    rfl

theorem Bare.not_prompting {options : Options} (bare : Bare options) : prompting options = false := by
  obtain ⟨values, listed⟩ := bare.listed
  simp [prompting, listed]

theorem Bare.start {options : Options} (bare : Bare options) {found : Found} {inputs : List Input} {machine : Machine}
    {printed : String} (starts : Session.start options found inputs = .ok (machine, printed)) : printed = "" := by
  simp only [Session.start, bind_eq_ok] at starts
  obtain ⟨⟨source, opening⟩, opens, starts⟩ := starts
  obtain rfl := openSource_quiet bare.quiet opens
  dsimp only at starts
  split at starts
  · cases starts
  · split at starts <;> cases starts
    rw [bare.quiet, bare.not_prompting, shownAll_quiet]
    rfl

theorem Bare.finish {options : Options} (bare : Bare options) {machine : Machine} {values : List Int}
    (outputs : machine.Outputs values) (error? : Option Diagnostic) :
    Session.finish options machine error? "" =
      ⟨bareText error? values, .exit (if machine.status.halted then 0 else 1)⟩ := by
  have error : errorLines error? =
      (error?.map fun diagnostic => "Execution error: " ++ diagnostic.render).toList.map some := by
    cases error? <;> rfl
  simp only [Session.finish, report, bare.plain, bare.quiet, outputs.filter, error, Printout.lines_some]
  simp [bareText]

theorem Bare.run {options : Options} (bare : Bare options) {found : Found} {standardInput : Text} {start final : Machine}
    {printed : String} (starts : Session.start options found (inputs options standardInput) = .ok (start, printed))
    {fuel : Nat} {error? : Option Machine.Failure} (returned : start.runFor fuel = (final, error?)) :
    Session.run fuel options found standardInput = close options final error? "" := by
  obtain rfl := bare.start starts
  simp only [Session.run, starts, returned, bare.quiet, bare.not_prompting, shownAll_quiet]
  rfl

/-- Nothing is printed of an error that escaped. -/
theorem Bare.close {options : Options} (bare : Bare options) {final : Machine} {values : List Int}
    (outputs : final.Outputs values) {error? : Option Machine.Failure}
    (silent : ∀ reason, error? = some (.escaped reason) → values = []) :
    Session.close options final error? "" = ⟨bareText (error?.bind (·.diagnostic?)) values, bareEnding final error?⟩ := by
  cases error? with
  | none => exact bare.finish outputs none
  | some failure =>
    cases failure with
    | reported diagnostic => exact bare.finish outputs (some diagnostic)
    | escaped reason =>
      rw [silent reason rfl]
      rfl

end Session

/-- A loaded machine whose first step escapes has put out no number. -/
theorem Machine.Runs.silent {source : Text} {inputs : List Input} {limit : Option Int} {observer : Observer}
    {start final : Machine} {error? : Option Failure} (loads : load source inputs limit observer = .ok start)
    (escapes : start.Escapes) (runs : start.Runs final error?) :
    final.Outputs [] ∧ ∀ fuel, 1 ≤ fuel → start.runFor fuel = (final, error?) := by
  have returned := runFor_of_escapes (load_fresh loads).running escapes
  obtain ⟨rfl, rfl⟩ := runs.unique ⟨.inr (Option.some_ne_none _), 1, returned 0⟩
  obtain ⟨written, lines⟩ := load_outputs loads
  refine ⟨⟨written, lines⟩, ?_⟩
  intro fuel positive
  obtain ⟨fuel, rfl⟩ := Nat.exists_eq_succ_of_ne_zero (show fuel ≠ 0 by omega)
  exact returned fuel

/-- After any calls of a driver, the lines put out are the ready message, the numbers written and, if the machine
has halted, the words at the halt. A quiet session prints the error that ended its run and those numbers. -/
theorem Machine.output_is_numbers_written {source : Text} {inputs : List Input} {limit : Option Int} {observer : Observer}
    {start : Machine} (loads : load source inputs limit observer = .ok start) :
    (∀ calls final, start.Driven calls final → ∃ values, final.Outputs values) ∧
    ∀ options found standardInput printed, Session.Bare options →
      Session.start options found (Session.inputs options standardInput) = .ok (start, printed) →
      ∀ final error?, start.Runs final error? → ∃ values enough, final.Outputs values ∧ ∀ fuel, enough ≤ fuel →
        Session.run fuel options found standardInput =
          ⟨Session.bareText (error?.bind (·.diagnostic?)) values, Session.bareEnding final error?⟩ := by
  refine ⟨fun calls final driven => driven.outputs loads, ?_⟩
  intro options found standardInput printed bare starts final error? runs
  rcases load_worded_or_escapes loads with _ | escapes
  · have driven : start.Driven [.run] final := Driven.start.call (.run runs)
    obtain ⟨values, outputs⟩ := driven.outputs loads
    obtain ⟨count, finishes, rfl, rfl⟩ := runs_iff.mp runs
    refine ⟨values, count, outputs, ?_⟩
    intro fuel enough
    rw [bare.run starts (runFor_of_finishesAt finishes enough)]
    apply bare.close outputs
    intro reason escaped
    cases reports : start.lastReport? count <;> simp [reports] at escaped
  · obtain ⟨outputs, returned⟩ := runs.silent loads escapes
    refine ⟨[], 1, outputs, ?_⟩
    intro fuel enough
    rw [bare.run starts (returned fuel enough)]
    exact bare.close outputs fun _ _ => rfl

theorem Machine.output_is_numbers_written_of_negative :
    ∃ enough, ∀ fuel, enough ≤ fuel →
      Session.run fuel { inline? := some "WRITE =-7|HALT".toList, inputs := .listed [], quiet := true } .missing [] =
        ⟨"-7\n", .exit 0⟩ := by
  let writing := Machine.start (.ofLines [⟨1, "WRITE =-7".toList, none, "WRITE =-7".toList⟩,
    ⟨2, "HALT".toList, none, "HALT".toList⟩]) [] (some 100000) .absent
  have loads : load "WRITE =-7\nHALT".toList [] (some 100000) .absent = .ok writing := rfl
  have := load_worded loads (by decide +kernel)
  have finishes : writing.FinishesAt 2 := ⟨by decide +kernel, by decide +kernel⟩
  have runs : writing.Runs (writing.steps 2) none := runs_iff.mpr ⟨2, finishes, rfl, by decide +kernel⟩
  obtain ⟨values, enough, outputs, prints⟩ := (output_is_numbers_written loads).2
    { inline? := some "WRITE =-7|HALT".toList, inputs := .listed [], quiet := true } .missing [] ""
    ⟨rfl, rfl, [], rfl⟩ rfl _ _ runs
  have halted : (writing.steps 2).status.halted = true := by decide +kernel
  have put : (writing.steps 2).workspace.output.toList = readyMessage :: ["-7"] ++ Command.haltMessages := by
    decide +kernel
  have lines := outputs.lines
  rw [put, halted, if_pos rfl] at lines
  have numbers : ["-7"] = values.map toString := (List.cons.inj (List.append_cancel_right lines)).2
  refine ⟨enough, ?_⟩
  intro fuel more
  rw [prints fuel more, Session.bareText, Session.bareEnding, ← numbers, halted]
  rfl

end RandomAccess
