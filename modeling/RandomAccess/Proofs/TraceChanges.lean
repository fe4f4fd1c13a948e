import RandomAccess.Proofs.NumbersReadBack
import RandomAccess.Proofs.OutputAttribution
import RandomAccess.Proofs.OutputLines
import RandomAccess.Proofs.SessionOutcome
import RandomAccess.Proofs.WriteLog

/-! The listing of a trace loses nothing. For each entry it shows the cells that differ from the entry before, and as no
cell is ever removed, these changes lead from the one memory to the other. So all the memories on record can be built
up again from what is shown, whatever is done to the machine between its steps. A number that is too long is shown as a
change where it first comes up, and there the listing breaks off. -/

namespace RandomAccess

namespace Memory

theorem within_refl (memory : Memory) : memory.Within memory :=
  fun _ defined => defined

section Writes

variable {key : Int} {writes : List Cell}

theorem get?_writeAll_of_absent (memory : Memory) (absent : ∀ cell ∈ writes, cell.1 ≠ key) :
    (memory.writeAll writes).get? key = memory.get? key := by
  induction writes generalizing memory with
  | nil => rfl
  | cons cell rest ih =>
    obtain ⟨other, absent⟩ := List.forall_mem_cons.mp absent
    have later := ih (memory.write cell.1 cell.2) absent
    rw [get?_write, if_neg other.symm] at later
    exact later

theorem get?_writeAll_of_mem (memory : Memory) {value : Int} (member : (key, value) ∈ writes)
    (agree : ∀ cell ∈ writes, cell.1 = key → cell.2 = value) : (memory.writeAll writes).get? key = some value := by
  induction writes generalizing memory with
  | nil => cases member
  | cons cell rest ih =>
    obtain ⟨_, agree⟩ := List.forall_mem_cons.mp agree
    by_cases again : ∃ later ∈ rest, later.1 = key
    · obtain ⟨later, held, same⟩ := again
      apply ih (memory.write cell.1 cell.2) _ agree
      rw [← same, ← agree later held same]
      exact held
    · have absent : ∀ later ∈ rest, later.1 ≠ key := fun later held same => again ⟨later, held, same⟩
      have first : (key, value) = cell := by
        rcases List.mem_cons.mp member with first | later
        · exact first
        · exact absurd rfl (absent _ later)
      have written := get?_writeAll_of_absent (memory.write cell.1 cell.2) absent
      rw [← first, get?_write, if_pos rfl] at written
      rw [← first]
      exact written

end Writes

theorem Within.get?_eq_none {earlier later : Memory} (within : earlier.Within later) {key : Int}
    (undefined : later.get? key = none) : earlier.get? key = none := by
  apply Option.not_isSome_iff_eq_none.mp
  intro defined
  have kept := within key defined
  rw [contains, undefined] at kept
  cases kept

end Memory

/-- The cell as it is after a change. -/
def Change.cell (change : Change) : Cell :=
  (change.address, change.new)

namespace Memory

/-- The memory with some changes made to it, in order. -/
def amend (memory : Memory) (changes : List Change) : Memory :=
  memory.writeAll (changes.map Change.cell)

theorem amend_append (memory : Memory) (first second : List Change) :
    memory.amend (first ++ second) = (memory.amend first).amend second := by
  simp only [amend, writeAll, List.map_append, List.foldl_append]

/-- The changes from one memory to another make the one into the other, if no cell has been removed. -/
theorem amend_changes {earlier later : Memory} (within : earlier.Within later) :
    earlier.amend (earlier.changes later) = later := by
  have shown {cell : Cell} (member : cell ∈ (earlier.changes later).map Change.cell) :
      later.get? cell.1 = some cell.2 ∧ earlier.get? cell.1 ≠ some cell.2 := by
    obtain ⟨change, among, rfl⟩ := List.mem_map.mp member
    obtain ⟨held, old, different⟩ := mem_changes_iff.mp among
    exact ⟨get?_eq_some_iff.mpr held, old ▸ different⟩
  apply eq_of_get?
  intro key
  by_cases same : later.get? key = earlier.get? key
  · rw [amend, get?_writeAll_of_absent, same]
    rintro cell member rfl
    obtain ⟨held, different⟩ := shown member
    exact different (same ▸ held)
  · have defined : later.get? key ≠ none := fun undefined => same (undefined.trans (within.get?_eq_none undefined).symm)
    obtain ⟨value, held⟩ := Option.ne_none_iff_exists'.mp defined
    have different : earlier.get? key ≠ some value := fun kept => same (held.trans kept.symm)
    rw [held]
    apply get?_writeAll_of_mem
    · apply List.mem_map.mpr
      exact ⟨⟨key, earlier.get? key, value⟩, mem_changes_iff.mpr ⟨get?_eq_some_iff.mp held, rfl, different⟩, rfl⟩
    · rintro cell member rfl
      exact Option.some.inj ((shown member).1.symm.trans held)

end Memory

namespace Change

/-- The text of a change: which cell, what it held or a dash, and what it holds now. -/
def Shows (change : Change) (held? : Option Int) (text : Text) : Prop :=
  ∃ old : Text, text = 'r' :: Numeral.write change.address ++ ": ".toList ++ old ++ " → ".toList ++ Numeral.write change.new ∧
    (old = ['-'] ↔ held? = none) ∧ ∀ n, held? = some n → old = Numeral.write n

theorem dash_ne_write (n : Int) : ['-'] ≠ Numeral.write n := by
  intro same
  obtain ⟨c, member, digit⟩ := Numeral.digit_mem_write n
  rw [← same, List.mem_singleton] at member
  rw [member] at digit
  cases digit

/-- The text of a change, however long its numbers are. -/
def written (change : Change) : Text :=
  'r' :: Numeral.write change.address ++ ": ".toList ++ (change.old?.map Numeral.write).getD ['-'] ++ " → ".toList ++
    Numeral.write change.new

theorem shows_written (change : Change) : change.Shows change.old? change.written := by
  refine ⟨(change.old?.map Numeral.write).getD ['-'], rfl, ?_⟩
  cases change.old? with
  | none => simp
  | some n => simp [(dash_ne_write n).symm]

/-- None of the numbers of a change is too long to be written. -/
def Writable (change : Change) : Prop :=
  Numeral.Representable change.address ∧ (∀ old, change.old? = some old → Numeral.Representable old) ∧
    Numeral.Representable change.new

theorem text?_of_writable {change : Change} (short : change.Writable) : change.text? = some change.written := by
  obtain ⟨address, old?, new⟩ := change
  obtain ⟨shortAddress, shortOld, shortNew⟩ := short
  rw [text?, Numeral.text?_of_representable shortAddress, Numeral.text?_of_representable shortNew]
  cases old? with
  | none => rfl
  | some old =>
    simp only [Numeral.text?_of_representable (shortOld old rfl)]
    rfl

/-- The changes stand on one line, with commas between their texts. There is no such line if nothing has changed, and
none can be printed if a number is too long. -/
structure ListedAs (changes : List Change) (lines : List (Option String)) : Prop where
  unchanged : changes = [] → lines = []
  changed : changes ≠ [] → (∀ change ∈ changes, change.Writable) →
    lines = [some ("  Changes: " ++ String.ofList ([',', ' '].intercalate (changes.map written)))]
  broken : (∃ change ∈ changes, ¬ change.Writable) → lines = [none]

theorem listedAs_changeLines (changes : List Change) : ListedAs changes (Entry.changeLines changes) := by
  constructor
  · intro unchanged
    rw [unchanged]
    rfl
  · intro changed short
    have texts : changes.mapM text? = some (changes.map written) :=
      mapM_eq_some_map fun change member => text?_of_writable (short change member)
    rw [Entry.changeLines, if_neg (by simpa using changed), texts]
    rfl
  · intro long
    obtain ⟨change, member, long⟩ := long
    have changed : changes ≠ [] := List.ne_nil_of_mem member
    have texts : changes.mapM text? = none := by
      rw [← Option.not_isSome_iff_eq_none, isSome_mapM_iff]
      intro printed
      exact long (isSome_text?_iff.mp (printed change member))
    rw [Entry.changeLines, if_neg (by simpa using changed), texts]
    rfl

end Change

namespace Entry

/-- Each entry with the memory that the listing compares it with: the one that the entry before it has left. -/
def comparisons (earlier : Memory) (entries : List Entry) : List (Memory × Entry) :=
  (earlier :: entries.map Entry.memory).zip entries

/-- The changes that are shown of each entry. -/
def changeLists (earlier : Memory) (entries : List Entry) : List (List Change) :=
  (comparisons earlier entries).map fun shown => shown.1.changes shown.2.memory

theorem changeLists_cons (earlier : Memory) (entry : Entry) (entries : List Entry) :
    changeLists earlier (entry :: entries) = earlier.changes entry.memory :: changeLists entry.memory entries := rfl

/-- The lines that are printed of each entry. -/
def listed (earlier : Memory) (entries : List Entry) : List (List (Option String)) :=
  (comparisons earlier entries).map fun shown => shown.2.lines shown.1

variable {earlier : Memory} {entries : List Entry} {index : Nat}

theorem comparisons_getElem? (earlier : Memory) {entry : Entry} (held : entries[index]? = some entry) :
    ∃ before, (comparisons earlier entries)[index]? = some (before, entry) := by
  have inside : index < (earlier :: entries.map Entry.memory).length := by
    have short := (List.getElem?_eq_some_iff.mp held).1
    simp only [List.length_cons, List.length_map]
    omega
  exact ⟨(earlier :: entries.map Entry.memory)[index],
    List.getElem?_zip_eq_some.mpr ⟨List.getElem?_eq_getElem inside, held⟩⟩

/-- What is printed of an entry shows the changes that are listed for it. -/
theorem listed_getElem? (earlier : Memory) {entry : Entry} (held : entries[index]? = some entry) :
    ∃ changes, (changeLists earlier entries)[index]? = some changes ∧
      (listed earlier entries)[index]? = some
        ([some ("\n[Step " ++ toString entry.step ++ "] line " ++ toString entry.line ++ " " ++ entry.outcome),
            some ("  Instruction: " ++ String.ofList entry.instruction)] ++
          changeLines changes ++ entry.moveLines ++ entry.output.map fun text => some ("  Output: " ++ text)) := by
  obtain ⟨before, compared⟩ := comparisons_getElem? earlier held
  refine ⟨before.changes entry.memory, ?_, ?_⟩
  · rw [changeLists, List.getElem?_map, compared]
    rfl
  · rw [listed, List.getElem?_map, compared]
    rfl

/-- The changes up to an entry build up its memory. -/
theorem amend_take (kept : List.IsChain Memory.Within (earlier :: entries.map Entry.memory)) {entry : Entry}
    (held : entries[index]? = some entry) :
    earlier.amend ((changeLists earlier entries).take (index + 1)).flatten = entry.memory := by
  induction entries generalizing earlier index with
  | nil => cases held
  | cons first rest ih =>
    obtain ⟨within, kept⟩ := List.isChain_cons_cons.mp kept
    rw [changeLists_cons, List.take_succ_cons, List.flatten_cons, Memory.amend_append, Memory.amend_changes within]
    cases index with
    | zero =>
      cases held
      rfl
    | succ index => exact ih kept held

/-- The changes of an entry are those from the memory that the changes before them build up. -/
theorem changes_of_amended (kept : List.IsChain Memory.Within (earlier :: entries.map Entry.memory)) {changes : List Change}
    (shown : (changeLists earlier entries)[index]? = some changes) :
    ∃ later, changes = (earlier.amend ((changeLists earlier entries).take index).flatten).changes later := by
  induction entries generalizing earlier index with
  | nil => cases shown
  | cons first rest ih =>
    obtain ⟨within, kept⟩ := List.isChain_cons_cons.mp kept
    rw [changeLists_cons] at shown ⊢
    cases index with
    | zero =>
      cases shown
      exact ⟨first.memory, rfl⟩
    | succ index =>
      rw [List.take_succ_cons, List.flatten_cons, Memory.amend_append, Memory.amend_changes within]
      exact ih kept shown

end Entry

theorem Printout.lines_append (printout : Printout) (first second : List (Option String)) :
    printout.lines (first ++ second) = (printout.lines first).lines second :=
  List.foldl_append

namespace Machine

theorem printSteps_eq (earlier : Memory) (printout : Printout) (entries : List Entry) :
    printSteps earlier printout entries = printout.lines (Entry.listed earlier entries).flatten := by
  induction entries generalizing earlier printout with
  | nil => rfl
  | cons entry rest ih =>
    rw [printSteps, ih, ← Printout.lines_append]
    rfl

/-- The memories on record. -/
def memories (machine : Machine) : List Memory :=
  machine.trace.toList.map Entry.memory

/-- No cell has been removed from one memory on record to the next, nor since the last of them. -/
structure Grown (machine : Machine) : Prop where
  chained : List.IsChain Memory.Within (.empty :: machine.memories)
  last : (machine.memories.getLastD .empty).Within machine.memory

theorem step_within (machine : Machine) : machine.memory.Within machine.step.1.memory := by
  rw [memory_step_eq]
  cases stored : machine.stored? with
  | none => exact machine.memory.within_refl
  | some later => exact (assigns_of_stored stored).within

theorem memories_step (machine : Machine) [machine.Records] :
    machine.step.1.memories = machine.memories ++ [machine.step.1.memory] := by
  have recorded : machine.entry.memory = machine.step.1.memory := (step_memory machine).symm
  rw [memories, step_trace, Array.toList_push, List.map_append, memories, ← recorded]
  rfl

theorem memories_emit (machine : Machine) (text : String) : (machine.emit text).memories = machine.memories := by
  obtain ⟨program, limit, status, workspace, trace, lines, shared⟩ := machine
  simp only [memories, emit]
  split
  · apply List.ext_getElem?
    intro index
    simp only [Array.toList_modify, List.getElem?_map, List.getElem?_modify]
    cases trace.toList[index]? with
    | none => rfl
    | some entry => split <;> rfl
  · rfl

namespace Grown

variable {machine : Machine} (grown : machine.Grown)
include grown

theorem step : machine.step.1.Grown := by
  rcases machine.escapes_or_records with escapes | _
  · rw [step_of_escapes escapes]
    exact ⟨grown.chained, grown.last⟩
  have within : (machine.memories.getLastD .empty).Within machine.step.1.memory := Trans.trans grown.last machine.step_within
  refine ⟨?_, ?_⟩
  · rw [memories_step]
    exact isChain_concat grown.chained within
  · rw [memories_step, List.getLastD_concat]
    exact machine.step.1.memory.within_refl

/-- What leaves the memories on record alone may add to the memory as it is. -/
theorem between {final : Machine} (recorded : final.memories = machine.memories) (within : machine.memory.Within final.memory) :
    final.Grown := by
  refine ⟨?_, ?_⟩
  · rw [recorded]
    exact grown.chained
  · rw [recorded]
    exact Trans.trans grown.last within

theorem request {request : Request} {final : Machine} (leads : request.Leads machine final) : final.Grown := by
  cases leads with
  | call returned =>
    obtain ⟨count, rfl⟩ := returned.steps
    exact steps_invariant (fun _ grown => grown.step) grown count
  | emit text => exact grown.between (memories_emit machine text) machine.memory.within_refl
  | ask => exact grown.between rfl machine.memory.within_refl
  | write address value =>
    have recorded : (machine.write address value).1.memories = machine.memories := rfl
    have written : (machine.write address value).1.memory = machine.memory.write address value := by
      change (machine.workspace.write address value).1.memory = _
      rw [Workspace.write_eq]
      rfl
    apply grown.between recorded
    rw [written]
    exact (machine.memory.assigns_write address value).within

end Grown

theorem load_grown {source : Text} {inputs : List Input} {limit : Option Int} {observer : Observer} {machine : Machine}
    (loads : load source inputs limit observer = .ok machine) : machine.Grown := by
  obtain ⟨program, _, rfl⟩ := load_eq_ok loads
  exact ⟨.singleton _, Memory.within_refl _⟩

theorem Handled.grown {start machine : Machine} {requests : List Request} (initial : start.Grown)
    (handled : start.Handled requests machine) : machine.Grown := by
  induction handled with
  | start => exact initial
  | request _ leads grown => exact grown.request leads

/-- The changes that the listing of the trace shows, one list for each entry. -/
def changeLists (machine : Machine) : List (List Change) :=
  Entry.changeLists .empty machine.trace.toList

/-- The lines that the listing of the trace prints, one list for each entry. -/
def listed (machine : Machine) : List (List (Option String)) :=
  Entry.listed .empty machine.trace.toList

/-- What the changes before an entry build up out of nothing. -/
def builtUp (machine : Machine) (index : Nat) : Memory :=
  Memory.empty.amend (machine.changeLists.take index).flatten

/-- The listing of a trace prints each entry with its changes from the memory of the one before, and what it prints is
enough to build up every memory on record. -/
structure ListsLosslessly (machine : Machine) : Prop where
  listing : ∀ printout, machine.printTrace printout =
    (printout.line (some (Printout.ruler '=' 70))).lines
      (headingLines "RAM EXECUTION TRACE" ++ machine.listed.flatten ++ machine.finalLines)
  whole : machine.listed.length = machine.trace.size
  lines : ∀ (index : Nat) (entry : Entry), machine.trace[index]? = some entry →
    ∃ changes changed, machine.changeLists[index]? = some changes ∧ Change.ListedAs changes changed ∧
      machine.listed[index]? = some
        ([some ("\n[Step " ++ toString entry.step ++ "] line " ++ toString entry.line ++ " " ++ entry.outcome),
            some ("  Instruction: " ++ String.ofList entry.instruction)] ++
          changed ++ entry.moveLines ++ entry.output.map fun text => some ("  Output: " ++ text))
  built : ∀ (index : Nat) (entry : Entry), machine.trace[index]? = some entry → machine.builtUp (index + 1) = entry.memory
  old : ∀ (index : Nat) (changes : List Change), machine.changeLists[index]? = some changes → ∀ change ∈ changes,
    change.old? = (machine.builtUp index).get? change.address ∧
      change.Shows ((machine.builtUp index).get? change.address) change.written
  effective : ∀ changes ∈ machine.changeLists, ∀ change ∈ changes, change.old? ≠ some change.new
  breaks : ∀ printout : Printout, printout.complete = true →
    ((machine.printTrace printout).complete = false ↔
      (∃ entry ∈ machine.trace, ∃ cell ∈ entry.memory.cells, 10 ^ 4300 ≤ cell.1.natAbs ∨ 10 ^ 4300 ≤ cell.2.natAbs) ∨
      ∃ cell ∈ machine.memory.cells, 10 ^ 4300 ≤ cell.1.natAbs ∨ 10 ^ 4300 ≤ cell.2.natAbs)

theorem printTrace_eq (machine : Machine) (printout : Printout) :
    machine.printTrace printout =
      (printout.line (some (Printout.ruler '=' 70))).lines
        (headingLines "RAM EXECUTION TRACE" ++ machine.listed.flatten ++ machine.finalLines) := by
  rw [printTrace, printSteps_eq, Printout.lines_append, Printout.lines_append]
  rfl

theorem printTrace_breaks_iff (machine : Machine) {printout : Printout} (printing : printout.complete = true) :
    (machine.printTrace printout).complete = false ↔
      (∃ entry ∈ machine.trace, ¬ entry.memory.Representable) ∨ ¬ machine.memory.Representable := by
  rw [Bool.eq_false_iff, Ne, printTrace_complete_iff]
  simp only [printing, true_and, not_and_or, not_forall, exists_prop]

/-- Whatever is asked of a loaded machine, the listing of its trace is lossless. -/
theorem listing_lossless {source : Text} {inputs : List Input} {limit : Option Int} {observer : Observer}
    {start machine : Machine} {requests : List Request} (loads : load source inputs limit observer = .ok start)
    (handled : start.Handled requests machine) : machine.ListsLosslessly := by
  have kept := (handled.grown (load_grown loads)).chained
  refine ⟨machine.printTrace_eq, ?_, ?_, ?_, ?_, ?_, ?_⟩
  · simp [listed, Entry.listed, Entry.comparisons]
  · intro index entry held
    rw [← Array.getElem?_toList] at held
    obtain ⟨changes, shown, printed⟩ := Entry.listed_getElem? .empty held
    exact ⟨changes, _, shown, Change.listedAs_changeLines changes, printed⟩
  · intro index entry held
    apply Entry.amend_take kept
    rw [Array.getElem?_toList]
    exact held
  · intro index changes shown change member
    obtain ⟨later, rfl⟩ := Entry.changes_of_amended kept shown
    have old : change.old? = (machine.builtUp index).get? change.address := (Memory.mem_changes_iff.mp member).2.1
    rw [← old]
    exact ⟨rfl, change.shows_written⟩
  · intro changes among change member
    obtain ⟨shown, _, rfl⟩ := List.mem_map.mp among
    exact (Memory.mem_changes_iff.mp member).2.2
  · intro printout printing
    simp only [machine.printTrace_breaks_iff printing, Memory.not_representable_iff]

/-- A cell is written between two steps, and then a number too long to be printed. -/
theorem listing_lossless_of_writes_between :
    ∃ start final, load "LOAD =5\nADD =1\nHALT".toList [] none .absent = .ok start ∧
      start.Handled [.call .step, .write 3 (-2), .emit "a", .call .run, .write 0 Numeral.bound] final ∧
      final.changeLists = [[⟨0, none, 5⟩], [⟨0, some 5, 6⟩, ⟨3, none, -2⟩], []] ∧
      (final.builtUp 2).cells = [(0, 6), (3, -2)] ∧ (final.printTrace {}).complete = false ∧ final.ListsLosslessly := by
  let adding := start (.ofLines [⟨1, "LOAD =5".toList, none, "LOAD =5".toList⟩, ⟨2, "ADD =1".toList, none, "ADD =1".toList⟩,
    ⟨3, "HALT".toList, none, "HALT".toList⟩]) [] none .absent
  have loads : load "LOAD =5\nADD =1\nHALT".toList [] none .absent = .ok adding := rfl
  let between := (adding.step.1.write 3 (-2)).1.emit "a"
  have begun : adding.Handled [.call .step, .write 3 (-2), .emit "a"] between :=
    Handled.start.request (.call .step) |>.request (.write 3 (-2)) |>.request (.emit "a")
  have := load_worded loads nofun
  have := begun.worded
  have runs : between.Runs (between.steps 2) none :=
    runs_iff.mpr ⟨2, ⟨by decide +kernel, by decide +kernel⟩, rfl, by decide +kernel⟩
  let final := ((between.steps 2).write 0 Numeral.bound).1
  have handled : adding.Handled [.call .step, .write 3 (-2), .emit "a", .call .run, .write 0 Numeral.bound] final :=
    begun.request (.call (.run runs)) |>.request (.write 0 Numeral.bound)
  have lossless := listing_lossless loads handled
  have long : Numeral.bound = 10 ^ 4300 := by rw [Numeral.bound_eq, Numeral.digitLimit]
  refine ⟨adding, final, loads, handled, by decide +kernel, by decide +kernel, ?_, lossless⟩
  apply (lossless.breaks {} rfl).mpr
  refine .inr ⟨(0, (Numeral.bound : Int)), by decide +kernel, .inr ?_⟩
  rw [Int.natAbs_natCast, long]

end Machine
end RandomAccess
