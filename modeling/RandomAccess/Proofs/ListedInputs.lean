import RandomAccess.Panel
import RandomAccess.Proofs.LineParts
import RandomAccess.Proofs.NumbersReadBack
import RandomAccess.Proofs.SessionOutcome

/-! Numbers that are listed in a text reach the instructions that read them. Commas divide the text into slots; each number
stands in a slot of its own, with blanks around it or none, and the other slots are blank. The command line and the panel both
take the inputs of a machine from such a list, so the reading steps of its run get the numbers one by one, and then
none. -/

namespace RandomAccess

namespace Numeral

theorem comma_notMem_write (n : Int) : ',' ∉ write n := by
  intro member
  rcases mem_write member with other | digit
  · cases other
  · revert digit
    decide

theorem write_ne_nil (n : Int) : write n ≠ [] := by
  unfold write
  split
  · exact List.cons_ne_nil _ _
  · exact Nat.toDigits_ne_nil

end Numeral

namespace Text

/-- Some integers in some slots of a text, in order. -/
inductive Slots : List Int → List Text → Prop where
  | none : Slots [] []
  | blank {values : List Int} {slot : Text} {slots : List Text} (blank : Blank slot) (rest : Slots values slots) :
      Slots values (slot :: slots)
  | number {values : List Int} {slots : List Text} (n : Int) (before after : Text) (indented : Blank before)
      (ended : Blank after) (rest : Slots values slots) :
      Slots (n :: values) ((before ++ (Numeral.write n ++ after)) :: slots)

/-- The text lists the integers, divided by commas. -/
def Lists (text : Text) (values : List Int) : Prop :=
  ∃ slots, Slots values slots ∧ text = [','].intercalate slots

theorem trim_of_blank {gap : Text} (blank : Blank gap) : trim gap = [] := by
  rw [trim, trimLeft_of_blank blank]
  rfl

theorem trim_write (n : Int) : trim (Numeral.write n) = Numeral.write n := by
  apply trim_eq_self
  · intro c first
    exact Numeral.isBlank_of_mem_write (List.mem_of_head? first)
  · intro c last
    exact Numeral.isBlank_of_mem_write (List.mem_of_getLast? last)

namespace Slots

variable {values : List Int} {slots : List Text}

theorem comma_notMem (listing : Slots values slots) : ∀ slot ∈ slots, ',' ∉ slot := by
  induction listing with
  | none => simp
  | blank blank _ ih => exact List.forall_mem_cons.mpr ⟨Line.not_mem_of_blank blank (by decide), ih⟩
  | number n _ _ indented ended _ ih =>
    have before := Line.not_mem_of_blank indented (show isBlank ',' = false by decide)
    have after := Line.not_mem_of_blank ended (show isBlank ',' = false by decide)
    refine List.forall_mem_cons.mpr ⟨?_, ih⟩
    simp [before, after, Numeral.comma_notMem_write n]

theorem filter_trim (listing : Slots values slots) :
    (slots.map trim).filter (fun part => !part.isEmpty) = values.map Numeral.write := by
  induction listing with
  | none => rfl
  | blank blank _ ih =>
    rw [List.map_cons, trim_of_blank blank]
    exact ih
  | number n _ _ indented ended _ ih =>
    rw [List.map_cons, trim_blank_append indented, trim_append_blank ended, trim_write,
      List.filter_cons_of_pos (by simp [Numeral.write_ne_nil n]), ih, List.map_cons]

end Slots

theorem Lists.listed_eq {text : Text} {values : List Int} (lists : text.Lists values) :
    listed text = values.map Numeral.write := by
  obtain ⟨slots, listing, rfl⟩ := lists
  cases slots with
  | nil =>
    cases listing
    rfl
  | cons first rest =>
    rw [listed, List.splitOn_intercalate ',' listing.comma_notMem (List.cons_ne_nil _ _)]
    exact listing.filter_trim

end Text

namespace Workspace

/-- What is handed out when an input is asked for again and again: the item at an index, counted from zero. -/
def item (workspace : Workspace) : Nat → Input
  | 0 => workspace.ask.1
  | index + 1 => workspace.ask.2.item index

theorem item_eq (workspace : Workspace) (index : Nat) : workspace.item index = workspace.inputs.getD index .cancel := by
  induction index generalizing workspace with
  | zero => cases held : workspace.inputs <;> simp [item, ask, held]
  | succ index ih =>
    have rest : workspace.ask.2.inputs = workspace.inputs.tail := rfl
    rw [item, ih, rest]
    cases workspace.inputs <;> rfl

end Workspace

namespace Machine

/-- How many of the steps on record have executed a line that reads, whatever came of it. -/
def readings (machine : Machine) : Nat :=
  machine.trace.toList.countP Entry.reads

/-- The next step reads a number. It goes to the cell that the target names; a target that names none fails the step. -/
structure Obtains (machine : Machine) (target : Text) (n : Int) : Prop where
  stored : ∀ address, (Operand.ofToken target).address machine.memory = .ok address →
    machine.step.2 = .ok machine.entry ∧ machine.step.1.memory = machine.memory.write address n
  misplaced : ∀ fault, (Operand.ofToken target).address machine.memory = .error fault →
    machine.step.2 = .error (fault.atLine machine.status.line) ∧ machine.step.1.memory = machine.memory

/-- Some integers are the inputs of a machine: they are handed out in order and nothing after them, and its reading
steps obtain them in that order, and are cancelled after that. -/
structure Supplied (machine : Machine) (values : List Int) : Prop where
  items : ∀ (index : Nat) (n : Int), values[index]? = some n → machine.workspace.item index = .text (Numeral.write n)
  exhausted : ∀ index, values.length ≤ index → machine.workspace.item index = .cancel
  obtained : ∀ (count : Nat) (target : Text) (n : Int),
    Statement.ofText (machine.steps count).instruction = ⟨"READ".toList, [target]⟩ →
    values[(machine.steps count).readings]? = some n → (machine.steps count).Obtains target n
  cancelled : ∀ (count : Nat) (target : Text),
    Statement.ofText (machine.steps count).instruction = ⟨"READ".toList, [target]⟩ →
    values.length ≤ (machine.steps count).readings →
    (machine.steps count).step.2 = .error (Fault.inputCancelled.atLine (machine.steps count).status.line)

section Reading

variable {machine : Machine} {target : Text} (reads : Statement.ofText machine.instruction = ⟨"READ".toList, [target]⟩)
include reads

/-- Without an observer that could refuse the memory, nothing more can go wrong. -/
theorem read_succeeds (unobserved : machine.workspace.observer = .absent) {n address : Int}
    (fit : (machine.workspace.inputs.headD .cancel).value = .ok n)
    (placed : (Operand.ofToken target).address machine.memory = .ok address) : machine.step.2 = .ok machine.entry := by
  have done : (Command.read (.ofToken target)).effect machine.program machine.memory
      (machine.workspace.inputs.headD .cancel) = .ok (.store address n) :=
    bind_eq_ok.mpr ⟨n, fit, bind_eq_ok.mpr ⟨address, placed, rfl⟩⟩
  have next : machine.consequence.next = .ok .advance := by
    rw [consequence_of_read reads, Command.performed, done, unobserved]
    rfl
  have := records_of_read reads
  have unreported : machine.report? = none := report?_eq_none_iff.mpr ⟨.advance, by rw [outcome_next, next]⟩
  rw [step_snd, unreported]

theorem obtains_next (unobserved : machine.workspace.observer = .absent) {n : Int}
    (fit : (machine.workspace.inputs.headD .cancel).value = .ok n) : machine.Obtains target n := by
  have receives := receives_next reads
  refine ⟨?_, ?_⟩
  · intro address placed
    exact ⟨read_succeeds reads unobserved fit placed, receives.stored n address fit placed⟩
  · intro fault lost
    exact receives.unplaced n fault fit lost

end Reading

theorem load_of_program {source : Text} {program : Program} (loads : Program.load source = .ok program) (inputs : List Input)
    (limit : Option Int) (observer : Observer) :
    load source inputs limit observer = .ok (start program inputs limit observer) :=
  bind_eq_ok.mpr ⟨program, loads, rfl⟩

theorem supplied_of_loads {source : Text} {values : List Int} {limit : Option Int} {machine : Machine}
    (loads : load source (values.map fun n => .text (Numeral.write n)) limit .absent = .ok machine)
    (short : ∀ n ∈ values, Numeral.Representable n) : machine.Supplied values := by
  have inputs : machine.workspace.inputs = values.map fun n => .text (Numeral.write n) := by
    obtain ⟨program, _, rfl⟩ := load_eq_ok loads
    rfl
  have unobserved (count : Nat) : (machine.steps count).workspace.observer = .absent := by
    obtain ⟨program, _, rfl⟩ := load_eq_ok loads
    rw [steps_observer]
    rfl
  have next (count : Nat) : (machine.steps count).workspace.inputs.headD .cancel =
      (values[(machine.steps count).readings]?.map fun n => Input.text (Numeral.write n)).getD .cancel := by
    have accounts := steps_invariant (fun _ accounts => accounts.step) (load_accounts loads) count
    rw [accounts.remaining, accounts.requested, readings]
    simp [List.headD_eq_head?_getD]
  refine ⟨?_, ?_, ?_, ?_⟩
  · intro index n held
    rw [Workspace.item_eq, inputs, List.getD_eq_getElem?_getD, List.getElem?_map, held]
    rfl
  · intro index beyond
    rw [Workspace.item_eq, inputs, List.getD_eq_getElem?_getD, List.getElem?_map, List.getElem?_eq_none beyond]
    rfl
  · intro count target n reads held
    apply obtains_next reads (unobserved count)
    rw [next, held]
    exact (Input.Gives.decimal (short n (List.mem_of_getElem? held))).value_eq
  · intro count target reads beyond
    have receives := receives_next reads
    rw [next, List.getElem?_eq_none beyond] at receives
    exact (receives.unfit _ rfl).1

end Machine

namespace Text.Lists

variable {text : Text} {values : List Int} (lists : text.Lists values) (short : ∀ n ∈ values, Numeral.Representable n)
include lists

theorem inputs_eq : (listed text).map Input.text = values.map fun n => .text (Numeral.write n) := by
  rw [lists.listed_eq, List.map_map]
  rfl

include short

/-- A list of numbers is not taken for the mark that leaves an option without a value. -/
theorem ne_dashes : text ≠ ['-', '-'] := by
  rintro rfl
  obtain ⟨n, member, same⟩ : ∃ n ∈ values, Numeral.write n = ['-', '-'] := by
    apply List.mem_map.mp
    rw [← lists.listed_eq]
    decide
  have parsed := Numeral.parse?_write n
  rw [same, if_pos (short n member)] at parsed
  cases parsed

theorem set_input (options : Options) : options.set .input text = .ok { options with inputs := .listed text } := by
  rw [Options.set, if_neg (lists.ne_dashes short)]

theorem session_supplied {options : Options} (given : options.inputs = .listed text) {found : Session.Found}
    {source : Text} {opening : String} (opens : Session.openSource options found = .ok (source, opening)) {program : Program}
    (loads : Program.load source = .ok program) (standardInput : Text) :
    ∃ machine printed, Session.start options found (Session.inputs options standardInput) = .ok (machine, printed) ∧
      machine.program = program ∧ machine.Supplied values := by
  have inputs : Session.inputs options standardInput = values.map fun n => .text (Numeral.write n) := by
    rw [Session.inputs, given]
    exact lists.inputs_eq
  have loaded := Machine.load_of_program loads (values.map fun n => .text (Numeral.write n)) options.limit .absent
  have started := Session.start_of_opened opens (by simp [given]) (values.map fun n => .text (Numeral.write n))
  rw [loaded] at started
  rw [inputs]
  exact ⟨_, _, started, rfl, Machine.supplied_of_loads loaded short⟩

theorem panel_supplied {source : Text} {program : Program} (loads : Program.load source = .ok program) :
    ∃ machine, (Panel.load source text).1 = ⟨some machine⟩ ∧ machine.program = program ∧ machine.Supplied values := by
  have loaded := Machine.load_of_program loads (values.map fun n => .text (Numeral.write n)) (some Panel.stepLimit) .absent
  refine ⟨_, ?_, rfl, Machine.supplied_of_loads loaded short⟩
  rw [Panel.load, lists.inputs_eq, loaded]

end Text.Lists

/-- Whatever program is run, on the command line or on the panel, a list of numbers in decimal becomes its inputs: so many
items are handed out and no more, and the reading steps obtain the numbers in order. -/
theorem Machine.listed_numbers_reach_reads {text : Text} {values : List Int} (short : ∀ n ∈ values, n.natAbs < 10 ^ 4300)
    (lists : text.Lists values) :
    (∀ options : Options, ∃ set, options.set .input text = .ok set ∧
      ∀ (found : Session.Found) (source standardInput : Text) (opening : String) (program : Program),
        Session.openSource set found = .ok (source, opening) → Program.load source = .ok program →
        ∃ machine printed, Session.start set found (Session.inputs set standardInput) = .ok (machine, printed) ∧
          machine.program = program ∧ machine.Supplied values) ∧
    ∀ (source : Text) (program : Program), Program.load source = .ok program →
      ∃ machine, (Panel.load source text).1 = ⟨some machine⟩ ∧ machine.program = program ∧ machine.Supplied values := by
  have representable : ∀ n ∈ values, Numeral.Representable n := fun n member => Numeral.representable_iff.mpr (short n member)
  constructor
  · intro options
    refine ⟨_, lists.set_input representable options, ?_⟩
    intro found source standardInput opening program opens loads
    exact lists.session_supplied representable rfl opens loads standardInput
  · intro source program loads
    exact lists.panel_supplied representable loads

/-- Two numbers among blank slots, and three instructions that read. -/
theorem Machine.listed_numbers_reach_reads_of_blank_slots :
    (∃ machine, (Panel.load "READ 1\nREAD *1\nREAD 3".toList ",7 ,\t,\u3000-8,".toList).1 = ⟨some machine⟩ ∧
      machine.workspace.item 1 = .text "-8".toList ∧ machine.workspace.item 2 = .cancel ∧
      (machine.steps 2).memory.cells = [(1, 7), (7, -8)] ∧
      (machine.steps 2).step.2 = .error (Fault.inputCancelled.atLine 3)) ∧
    ∃ set machine printed,
      ({ inline? := some "READ 1|READ *1|READ 3".toList } : Options).set .input ",7 ,\t,\u3000-8,".toList = .ok set ∧
      Session.start set .missing (Session.inputs set []) = .ok (machine, printed) ∧ machine.Supplied [7, -8] := by
  let program := Program.ofLines [⟨1, "READ 1".toList, none, "READ 1".toList⟩, ⟨2, "READ *1".toList, none, "READ *1".toList⟩,
    ⟨3, "READ 3".toList, none, "READ 3".toList⟩]
  let reading := Machine.start program [.text "7".toList, .text "-8".toList] (some Panel.stepLimit) .absent
  have lists : Text.Lists ",7 ,\t,\u3000-8,".toList [7, -8] :=
    ⟨["".toList, "7 ".toList, "\t".toList, "\u3000-8".toList, "".toList],
      .blank (by decide) (.number 7 [] [' '] (by decide) (by decide) (.blank (by decide)
        (.number (-8) ['\u3000'] [] (by decide) (by decide) (.blank (by decide) .none)))), by decide⟩
  have short : ∀ n ∈ [7, -8], Numeral.Representable n := by decide +kernel
  obtain ⟨sessions, panels⟩ :=
    Machine.listed_numbers_reach_reads (fun n member => Numeral.representable_iff.mp (short n member)) lists
  constructor
  · obtain ⟨machine, loaded, _, supplied⟩ := panels "READ 1\nREAD *1\nREAD 3".toList program rfl
    obtain rfl : reading = machine := Option.some.inj (Panel.mk.inj loaded)
    have second := (supplied.obtained 1 "*1".toList (-8) (by decide +kernel) (by decide +kernel)).stored 7 (by decide +kernel)
    have third := supplied.cancelled 2 "3".toList (by decide +kernel) (by decide +kernel)
    have line : (reading.steps 2).status.line = 3 := by decide +kernel
    rw [line] at third
    refine ⟨reading, loaded, supplied.items 1 (-8) rfl, supplied.exhausted 2 (by decide), ?_, third⟩
    rw [Machine.steps, second.2]
    decide +kernel
  · obtain ⟨set, given, starts⟩ := sessions { inline? := some "READ 1|READ *1|READ 3".toList }
    obtain rfl := Except.ok.inj (given.symm.trans (lists.set_input short _))
    obtain ⟨machine, printed, started, _, supplied⟩ := starts .missing "READ 1\nREAD *1\nREAD 3".toList [] _ program rfl rfl
    exact ⟨_, machine, printed, given, started, supplied⟩

end RandomAccess
