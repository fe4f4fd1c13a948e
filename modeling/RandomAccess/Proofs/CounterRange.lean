import RandomAccess.Panel
import RandomAccess.Proofs.FaultOrigins
import RandomAccess.Proofs.LoadedLines

/-! The program counter never leaves the program. It stands on a line or right behind the last one, where a
run that has halted cannot be. So the line that a step fetches and the line that the panel shows are always
there, and every line number in a report is that of a line or of the end. -/

namespace RandomAccess

namespace Program

variable {program : Program}

theorem line?_eq_some {pc : Int} {line : Line} (held : program.line? pc = some line) :
    ∃ index : Nat, pc = index ∧ index < program.size ∧ program.lines[index]? = some line := by
  unfold line? at held
  split at held
  · cases held
  next natural =>
    exact ⟨pc.toNat, by omega, (Array.getElem?_eq_some_iff.mp held).1, held⟩

/-- A line number that a report may name: that of a line, or of the end. -/
def Numbers (program : Program) (line : Int) : Prop :=
  1 ≤ line ∧ line ≤ program.size + 1

end Program

def Panel.announced (line : Line) : String :=
  let source := Text.trim line.source
  "Next: line " ++ toString line.number ++ " `" ++ (if source.isEmpty then "(empty)" else String.ofList source) ++ "`"

theorem Panel.statusText_of_running {machine : Machine} (running : machine.status.finished = false) :
    statusText machine = match machine.program.line? machine.status.pc with
      | some line => announced line
      | none => "Next: line " ++ toString machine.status.line ++ " (end of program)" := by
  simp only [Status.finished, Bool.or_eq_false_iff] at running
  rw [statusText, if_neg (by simp [running]), if_neg (by simp [running])]
  rfl

namespace Machine

theorem fetch_eq_ok {program : Program} {limit : Option Int} {status : Status} {line : Line}
    (fetched : fetch program limit status = .ok line) :
    status.halted = false ∧ program.line? status.pc = some line := by
  unfold fetch at fetched
  split at fetched
  · cases fetched
  next running =>
    refine ⟨by simpa using running, ?_⟩
    split at fetched
    · cases fetched
    · split at fetched
      · cases fetched
      · split at fetched <;> cases fetched
        assumption

theorem outcome_moves {machine : Machine} {move : Move} (made : machine.outcome.next = .ok move) :
    ∃ line, machine.program.line? machine.status.pc = some line ∧ machine.status.halted = false ∧
      (move = .halt ∧ Statement.ofText line.text = ⟨"HALT".toList, []⟩ ∨ machine.program.Goes move) := by
  cases fetched : fetch machine.program machine.limit machine.status with
  | error fault =>
    rw [outcome_of_refused fetched] at made
    cases made
  | ok line =>
    obtain ⟨running, held⟩ := fetch_eq_ok fetched
    refine ⟨line, held, running, ?_⟩
    simp only [outcome, fetched] at made
    cases decoded : InstructionSet.standard.decode (Statement.ofText line.text) with
    | error fault =>
      rw [Workspace.execute_of_undecoded _ decoded] at made
      cases made
    | ok command =>
      have executed := made
      rw [Workspace.execute_of_decoded _ decoded] at made
      obtain ⟨effect, done, moves⟩ := Workspace.perform_eq_ok made
      rcases Command.effect_goes done moves with ⟨_, rfl⟩ | goes
      · exact .inl ⟨rfl, (machine.workspace.execute_halts_iff).mp executed⟩
      · exact .inr goes

theorem step_errors (machine : Machine) [machine.Records] :
    machine.step.1.errors = machine.errors ++ machine.report?.toList := by
  rw [errors, step_trace, Array.toList_push, List.filterMap_append]
  change _ ++ [machine.entry].filterMap (·.error?) = _
  cases reports : machine.report? <;> simp [errors, entry, reports]

theorem mem_step_events {machine : Machine} [machine.Records] {event : Event}
    (member : event ∈ machine.step.1.workspace.events) :
    event ∈ machine.workspace.events ∨ event.isError = false ∨
      ∃ diagnostic, machine.report? = some diagnostic ∧ event = diagnostic.event := by
  obtain ⟨seen, logged, quiet⟩ := machine.outcome_frame.events
  have earlier (held : event ∈ machine.outcome.workspace.events) :
      event ∈ machine.workspace.events ∨ event.isError = false := by
    rw [logged, ← Array.mem_toList_iff, Array.toList_appendList] at held
    rcases List.mem_append.mp held with before | now
    · exact .inl (Array.mem_toList_iff.mp before)
    · exact .inr (quiet event now)
  rw [step_eq] at member
  cases reports : machine.report? with
  | none =>
    simp only [reports] at member
    exact (earlier member).imp_right .inl
  | some diagnostic =>
    simp only [reports, Workspace.log] at member
    rcases Array.mem_push.mp member with before | rfl
    · exact (earlier before).imp_right .inl
    · exact .inr (.inr ⟨diagnostic, rfl, rfl⟩)

/-- Where a machine may stand, and what its reports may name. -/
structure OnProgram (machine : Machine) : Prop where
  counter : ∃ index : Nat, machine.status.pc = index ∧ index ≤ machine.program.size
  halted : machine.status.halted = true → ∃ line, machine.program.line? machine.status.pc = some line ∧
    Statement.ofText line.text = ⟨"HALT".toList, []⟩
  recorded : ∀ diagnostic ∈ machine.errors, ∃ line, diagnostic.line = some line ∧ machine.program.Numbers line
  reported : ∀ line message, .error line message ∈ machine.workspace.events → machine.program.Numbers line

theorem start_onProgram (program : Program) (inputs : List Input) (limit : Option Int) (observer : Observer) :
    OnProgram (start program inputs limit observer) := by
  refine ⟨⟨0, rfl, Nat.zero_le _⟩, by simp [start], by simp [start, errors], ?_⟩
  intro line message member
  simp [start, Workspace.start, Workspace.emit] at member

theorem OnProgram.numbers {machine : Machine} (stands : machine.OnProgram) : machine.program.Numbers machine.status.line := by
  obtain ⟨index, same, inside⟩ := stands.counter
  simp only [Program.Numbers, Status.line, same]
  omega

theorem OnProgram.report {machine : Machine} (stands : machine.OnProgram) {diagnostic : Diagnostic}
    (reports : machine.report? = some diagnostic) :
    diagnostic.line = some machine.status.line ∧ machine.program.Numbers machine.status.line := by
  obtain ⟨fault, _, rfl⟩ := report?_eq_some_iff.mp reports
  exact ⟨rfl, stands.numbers⟩

theorem step_counter {machine : Machine} [machine.Records] (stands : machine.OnProgram) :
    (∃ index : Nat, machine.step.1.status.pc = index ∧ index ≤ machine.program.size) ∧
      (machine.step.1.status.halted = true → ∃ line, machine.program.line? machine.step.1.status.pc = some line ∧
        Statement.ofText line.text = ⟨"HALT".toList, []⟩) := by
  rw [step_status]
  cases made : machine.outcome.next with
  | error fault => exact ⟨stands.counter, stands.halted⟩
  | ok move =>
    obtain ⟨line, held, running, moves⟩ := outcome_moves made
    obtain ⟨index, same, inside, _⟩ := Program.line?_eq_some held
    rcases moves with ⟨rfl, halts⟩ | goes
    · exact ⟨stands.counter, fun _ => ⟨line, held, halts⟩⟩
    · have still (target : Int) : (advance machine.status (.ok (.jump target))).halted = true → False := by
        simp [advance, Status.move, Status.jump, Status.countStep, running]
      cases goes with
      | advance =>
        refine ⟨⟨index + 1, ?_, inside⟩, fun impossible => (still 0 impossible).elim⟩
        simp [advance, Status.move, Status.advance, Status.countStep, same]
      | jump known => exact ⟨⟨_, rfl, Nat.le_of_lt (Program.target?_lt known)⟩, fun impossible => (still 0 impossible).elim⟩

theorem step_onProgram (machine : Machine) (stands : machine.OnProgram) : OnProgram machine.step.1 := by
  rcases machine.escapes_or_records with escapes | _
  · rw [step_of_escapes escapes]
    exact ⟨stands.counter, stands.halted, stands.recorded, stands.reported⟩
  obtain ⟨counter, halted⟩ := step_counter stands
  refine ⟨?_, ?_, ?_, ?_⟩
  · rw [step_program]
    exact counter
  · rw [step_program]
    exact halted
  · intro diagnostic member
    rw [step_errors] at member
    rw [step_program]
    rcases List.mem_append.mp member with earlier | now
    · exact stands.recorded diagnostic earlier
    · obtain ⟨line, named⟩ := stands.report (Option.mem_toList.mp now)
      exact ⟨_, line, named⟩
  · intro line message member
    rw [step_program]
    rcases mem_step_events member with earlier | quiet | ⟨diagnostic, reports, same⟩
    · exact stands.reported line message earlier
    · cases quiet
    · obtain ⟨named, numbers⟩ := stands.report reports
      simp only [Diagnostic.event, named, Option.getD_some] at same
      cases same
      exact numbers

theorem Arises.past {machine : Machine} {origin : Fault.Origin} {fault : Fault} (arises : machine.Arises origin fault)
    (kind : fault.kind = .endOfProgram) : machine.program.line? machine.status.pc = none := by
  cases arises with
  | ended past => exact past
  | command _ fails => cases fails <;> cases kind
  | halted | failed | limited | unknown | misused | observed => cases kind

/-- Where a machine stands, and what it says of it. -/
structure CounterRange (machine : Machine) : Prop where
  nonempty : 0 < machine.program.size
  labels : ∀ label index, machine.program.target? label = some index → index < machine.program.size
  counter : 0 ≤ machine.status.pc ∧ machine.status.pc ≤ machine.program.size
  halted : machine.status.halted = true → machine.status.pc < machine.program.size ∧
    ∃ line, machine.program.lines[machine.status.pc.toNat]? = some line ∧ Statement.ofText line.text = ⟨"HALT".toList, []⟩
  indexed : machine.status.pc < machine.program.size → ∃ line, machine.program.line? machine.status.pc = some line ∧
    machine.program.lines[machine.status.pc.toNat]? = some line ∧ (line.number : Int) = machine.status.pc + 1
  fetched : ∀ line, fetch machine.program machine.limit machine.status = .ok line →
    machine.status.pc < machine.program.size ∧ machine.program.lines[machine.status.pc.toNat]? = some line
  shown : machine.status.finished = false →
    (∃ line, machine.program.lines[machine.status.pc.toNat]? = some line ∧ Panel.statusText machine = Panel.announced line) ∨
    machine.status.pc = machine.program.size ∧
      Panel.statusText machine = "Next: line " ++ toString (machine.status.pc + 1) ++ " (end of program)"
  ended : ∀ diagnostic : Diagnostic, machine.step.2 = .error diagnostic → diagnostic.kind = .endOfProgram →
    machine.status.pc = machine.program.size
  raised : ∀ diagnostic : Diagnostic, machine.step.2 = .error diagnostic →
    ∃ line, diagnostic.line = some line ∧ machine.program.Numbers line
  recorded : ∀ diagnostic ∈ machine.errors, ∃ line, diagnostic.line = some line ∧ machine.program.Numbers line
  reported : ∀ line message, .error line message ∈ machine.workspace.events → machine.program.Numbers line

theorem OnProgram.line?_eq {machine : Machine} (stands : machine.OnProgram) :
    machine.program.line? machine.status.pc = machine.program.lines[machine.status.pc.toNat]? := by
  obtain ⟨index, same, _⟩ := stands.counter
  rw [same, Program.line?_natCast, Int.toNat_natCast]

theorem OnProgram.at_end {machine : Machine} (stands : machine.OnProgram)
    (past : machine.program.line? machine.status.pc = none) : machine.status.pc = machine.program.size := by
  obtain ⟨index, same, inside⟩ := stands.counter
  rw [same, Program.line?_natCast, Array.getElem?_eq_none_iff] at past
  have reached : machine.program.size ≤ index := past
  omega

theorem OnProgram.counterRange {source : Text} {machine : Machine} (stands : machine.OnProgram)
    (loaded : Program.load source = .ok machine.program) : machine.CounterRange := by
  have indexed {line : Line} (held : machine.program.line? machine.status.pc = some line) :
      machine.status.pc < machine.program.size ∧ machine.program.lines[machine.status.pc.toNat]? = some line := by
    obtain ⟨index, same, inside, _⟩ := Program.line?_eq_some held
    exact ⟨by omega, by rw [← stands.line?_eq, held]⟩
  constructor
  · exact Program.load_nonempty loaded
  · intro label index known
    exact Program.target?_lt known
  · obtain ⟨index, same, inside⟩ := stands.counter
    omega
  · intro halted
    obtain ⟨line, held, halts⟩ := stands.halted halted
    exact ⟨(indexed held).1, line, (indexed held).2, halts⟩
  · intro inside
    cases held : machine.program.line? machine.status.pc with
    | none =>
      have ended := stands.at_end held
      omega
    | some line =>
      obtain ⟨index, same, _, found⟩ := Program.line?_eq_some held
      refine ⟨line, rfl, (indexed held).2, ?_⟩
      rw [Program.load_number loaded found, same]
      rfl
  · intro line fetched
    exact indexed (fetch_eq_ok fetched).2
  · intro running
    have next := Panel.statusText_of_running running
    cases held : machine.program.line? machine.status.pc with
    | none =>
      rw [held] at next
      exact .inr ⟨stands.at_end held, next⟩
    | some line =>
      rw [held] at next
      exact .inl ⟨line, (indexed held).2, next⟩
  · intro diagnostic raised kind
    obtain ⟨fault, failed, rfl⟩ := report?_eq_some_iff.mp (report?_of_raises raised)
    obtain ⟨origin, arises⟩ := arises_of_fails failed
    exact stands.at_end (arises.past kind)
  · intro diagnostic raised
    obtain ⟨named, numbers⟩ := stands.report (report?_of_raises raised)
    exact ⟨_, named, numbers⟩
  · exact stands.recorded
  · exact stands.reported

/-- Whatever a driver asks of a loaded machine, its counter stays in range. -/
theorem driven_counter_in_range {source : Text} {inputs : List Input} {limit : Option Int} {observer : Observer}
    {start final : Machine} {calls : List Call} (loads : load source inputs limit observer = .ok start)
    (driven : start.Driven calls final) : final.CounterRange := by
  obtain ⟨program, loaded, rfl⟩ := load_eq_ok loads
  have stands : final.OnProgram := driven.invariant step_onProgram (start_onProgram program inputs limit observer)
  apply stands.counterRange
  rw [driven.program]
  exact loaded

/-- A jump to a label on the last line, which has no instruction, runs off the end. -/
theorem driven_counter_in_range_of_last_label :
    ∃ start final, load "JUMP end\nHALT\nend:".toList [] none .snapshot = .ok start ∧
      start.Driven [.run] final ∧ final.status = ⟨3, false, true, 2⟩ ∧ final.program.size = 3 ∧
      final.errors.map (·.line) = [some 4] ∧ final.CounterRange := by
  let leaving := start (.ofLines [⟨1, "JUMP end".toList, none, "JUMP end".toList⟩,
    ⟨2, "HALT".toList, none, "HALT".toList⟩, ⟨3, "end:".toList, some "end".toList, []⟩]) [] none .snapshot
  have loads : load "JUMP end\nHALT\nend:".toList [] none .snapshot = .ok leaving := rfl
  have := load_worded loads nofun
  have driven : leaving.Driven [.run] (leaving.steps 3) :=
    Driven.start.call (.run (runs_iff.mpr ⟨3, ⟨by decide +kernel, by decide +kernel⟩, rfl, rfl⟩))
  exact ⟨leaving, _, loads, driven, by decide +kernel, by decide +kernel, by decide +kernel, driven_counter_in_range loads driven⟩

end Machine
end RandomAccess
