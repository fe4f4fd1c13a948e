import RandomAccess.Proofs.AbstractRefinement
import RandomAccess.Proofs.NumeralValues
import RandomAccess.Proofs.TraceLifecycle

/-! Following a run through its code. As long as no instruction halts or fails, the code leads from one line and one
state of the data to another, and there is one rule for each way an instruction goes on. What the code leads to is what
a machine without a step limit comes to, if none of its jumps can go astray. -/

namespace RandomAccess

namespace Abstract

namespace Data

/-- The data before the first step. -/
def start (inputs : List Input) : Data :=
  ⟨fun _ => none, inputs, [Machine.readyMessage]⟩

def put (data : Data) (address value : Int) : Data :=
  { data with store := Function.update data.store address (some value) }

def say (data : Data) (lines : List String) : Data :=
  { data with output := data.output ++ lines }

section

variable (data : Data) (address value : Int) (lines : List String)

@[simp]
theorem put_store (other : Int) :
    (data.put address value).store other = if other = address then some value else data.store other :=
  Function.update_apply data.store address (some value) other

@[simp]
theorem put_inputs : (data.put address value).inputs = data.inputs := rfl

@[simp]
theorem put_output : (data.put address value).output = data.output := rfl

@[simp]
theorem say_store : (data.say lines).store = data.store := rfl

@[simp]
theorem say_inputs : (data.say lines).inputs = data.inputs := rfl

@[simp]
theorem say_output : (data.say lines).output = data.output ++ lines := rfl

end
end Data

open Routine

theorem Routine.bind_ok {α β : Type} {data after : Data} {first : Routine α} {value : α}
    (done : first data = (.ok value, after)) (next : α → Routine β) : (first >>= next) data = next value after :=
  bind_apply next done

namespace Reference

/-- The number that a reference stands for. -/
@[simp]
def Holds (store : Int → Option Int) : Reference → Int → Prop
  | .direct cell, value => store cell = some value
  | .indirect cell, value => ∃ address, store cell = some address ∧ store address = some value
  | .immediate number, value => number = value
  | .malformed _ _, _ => False

/-- The cell that a reference stands for. -/
@[simp]
def Names (store : Int → Option Int) : Reference → Int → Prop
  | .direct cell, address => cell = address ∧ 0 ≤ address
  | .indirect cell, address => store cell = some address ∧ 0 ≤ address
  | .immediate _, _ | .malformed _ _, _ => False

end Reference

section Operands

variable {data : Data} {reference : Reference} {address value : Int}

theorem fetch_of_held (held : data.store address = some value) : fetch address data = (.ok value, data) := by
  unfold fetch
  rw [get_bind, held]
  rfl

theorem natural_of_inside (inside : 0 ≤ address) : natural address data = (.ok address, data) := by
  unfold natural
  rw [if_pos inside]
  rfl

theorem Reference.Holds.value_eq (held : reference.Holds data.store value) :
    reference.value data = (.ok value, data) := by
  cases reference with
  | direct cell => exact fetch_of_held held
  | indirect cell =>
    obtain ⟨address, pointed, held⟩ := held
    rw [Reference.value, bind_ok (fetch_of_held pointed)]
    exact fetch_of_held held
  | immediate number =>
    obtain rfl : number = value := held
    rfl
  | malformed mode token => exact held.elim

theorem Reference.Names.address_eq (named : reference.Names data.store address) :
    reference.address data = (.ok address, data) := by
  cases reference with
  | direct cell =>
    obtain ⟨rfl, inside⟩ := named
    exact natural_of_inside inside
  | indirect cell =>
    obtain ⟨pointed, inside⟩ := named
    rw [Reference.address, bind_ok (fetch_of_held pointed)]
    exact natural_of_inside inside
  | immediate number => exact named.elim
  | malformed mode token => exact named.elim

/-- An input that is there is taken, whatever it stands for. -/
theorem next_of_taken {input : Input} {rest : List Input} (given : data.inputs = input :: rest) :
    next data = (input.value, { data with inputs := rest }) := by
  unfold next
  rw [get_bind, given]
  change (MonadExcept.ofExcept input.value : Routine Int) { data with inputs := rest } = _
  cases input.value <;> rfl

theorem combine_of_applied {operation : Arithmetic} {left right : Int} (applied : operation.apply left right = .ok value) :
    combine left right operation data = (.ok value, data) := by
  cases operation with
  | add | sub | mult =>
    cases applied
    rfl
  | div =>
    simp only [combine, Arithmetic.apply] at applied ⊢
    split at applied
    · cases applied
    next nonzero =>
      cases applied
      rw [dif_neg nonzero]
      rfl

theorem execute_subtractJump {subtrahend : Reference} {target : Target} {left right : Int}
    (named : reference.Names data.store address) (minuend : reference.Holds data.store left)
    (held : subtrahend.Holds data.store right) :
    (Instruction.subtractJump reference subtrahend target).execute data =
      (if left - right = 0 then target.go else pure .advance : Routine Move) (data.put address (left - right)) := by
  rw [Instruction.execute, bind_ok named.address_eq, bind_ok minuend.value_eq, bind_ok held.value_eq]
  rfl

theorem execute_read_of_refused {input : Input} {rest : List Input} {fault : Fault} (given : data.inputs = input :: rest)
    (refused : input.value = .error fault) :
    (Instruction.read reference).execute data = (.error fault, { data with inputs := rest }) := by
  have taken := next_of_taken given
  rw [refused] at taken
  rw [Instruction.execute, bind_apply _ taken]

theorem execute_write_of_long (held : reference.Holds data.store value) (long : ¬ Numeral.Representable value) :
    (Instruction.write reference).execute data = (.error .tooLargeToWrite, data) := by
  rw [Instruction.execute, bind_ok held.value_eq]
  simp only [Numeral.text?, if_neg long]
  rfl

theorem execute_halt : Instruction.halt.execute data = (.ok .halt, data.say Command.haltMessages) := by
  simp only [Instruction.execute, print_bind, pure_apply, List.append_assoc]
  rfl

end Operands

/-- The code leads from a line and its data to another in some steps, and each of them is made. -/
inductive Leads (code : List Instruction) (origin : Nat) (initial : Data) : Nat → Nat → Data → Prop where
  | start : Leads code origin initial 0 origin initial
  | advance {count index : Nat} {data after : Data} {instruction : Instruction}
      (lead : Leads code origin initial count index data) (found : code[index]? = some instruction)
      (done : instruction.execute data = (.ok .advance, after)) : Leads code origin initial (count + 1) (index + 1) after
  | go {count index target : Nat} {data after : Data} {instruction : Instruction}
      (lead : Leads code origin initial count index data) (found : code[index]? = some instruction)
      (done : instruction.execute data = (.ok (.jump target), after)) : Leads code origin initial (count + 1) target after

namespace Leads

variable {code : List Instruction} {origin count index : Nat} {initial data : Data}

theorem here (code : List Instruction) (index : Nat) (data : Data) : Leads code index data 0 index data := .start

theorem trans {more target : Nat} {after : Data} (first : Leads code origin initial count index data)
    (second : Leads code index data more target after) : Leads code origin initial (count + more) target after := by
  induction second with
  | start => exact first
  | advance _ found done ih => exact ih.advance found done
  | go _ found done ih => exact ih.go found done

section Rules

variable (lead : Leads code origin initial count index data) {reference : Reference}
include lead

theorem skip (found : code[index]? = some .skip) : Leads code origin initial (count + 1) (index + 1) data :=
  lead.advance found rfl

theorem load (found : code[index]? = some (.load reference)) (value : Int) (held : reference.Holds data.store value) :
    Leads code origin initial (count + 1) (index + 1) (data.put 0 value) := by
  apply lead.advance found
  rw [Instruction.execute, bind_ok held.value_eq]
  rfl

theorem store (found : code[index]? = some (.store reference)) (address value : Int)
    (named : reference.Names data.store address) (held : data.store 0 = some value) :
    Leads code origin initial (count + 1) (index + 1) (data.put address value) := by
  apply lead.advance found
  rw [Instruction.execute, bind_ok named.address_eq, bind_ok (fetch_of_held held)]
  rfl

theorem arithmetic {operation : Arithmetic} (found : code[index]? = some (.arithmetic operation reference))
    (left right value : Int) (accumulated : data.store 0 = some left) (held : reference.Holds data.store right)
    (combined : operation.apply left right = .ok value) :
    Leads code origin initial (count + 1) (index + 1) (data.put 0 value) := by
  apply lead.advance found
  rw [Instruction.execute, bind_ok (fetch_of_held accumulated), bind_ok held.value_eq, bind_ok (combine_of_applied combined)]
  rfl

theorem jump (target : Nat) (found : code[index]? = some (.jump (.line target))) :
    Leads code origin initial (count + 1) target data :=
  lead.go found rfl

theorem jumpIf {condition : Condition} (target : Nat) (found : code[index]? = some (.jumpIf condition (.line target)))
    (value : Int) (accumulated : data.store 0 = some value) (met : meets value condition = true) :
    Leads code origin initial (count + 1) target data := by
  apply lead.go found
  rw [Instruction.execute, bind_ok (fetch_of_held accumulated), if_pos met]
  rfl

theorem pass {condition : Condition} {target : Target} (found : code[index]? = some (.jumpIf condition target))
    (value : Int) (accumulated : data.store 0 = some value) (unmet : meets value condition = false) :
    Leads code origin initial (count + 1) (index + 1) data := by
  apply lead.advance found
  rw [Instruction.execute, bind_ok (fetch_of_held accumulated), if_neg (by simp [unmet])]
  rfl

theorem subtractJump {subtrahend : Reference} (target : Nat)
    (found : code[index]? = some (.subtractJump reference subtrahend (.line target))) (address value : Int)
    (named : reference.Names data.store address) (minuend : reference.Holds data.store value)
    (held : subtrahend.Holds data.store value) :
    Leads code origin initial (count + 1) target (data.put address 0) := by
  apply lead.go found
  rw [execute_subtractJump named minuend held, if_pos (Int.sub_self value), Int.sub_self]
  rfl

theorem subtract {subtrahend : Reference} {target : Target}
    (found : code[index]? = some (.subtractJump reference subtrahend target)) (address left right : Int)
    (named : reference.Names data.store address) (minuend : reference.Holds data.store left)
    (held : subtrahend.Holds data.store right) (differ : left ≠ right) :
    Leads code origin initial (count + 1) (index + 1) (data.put address (left - right)) := by
  apply lead.advance found
  rw [execute_subtractJump named minuend held, if_neg (by omega)]
  rfl

theorem read (found : code[index]? = some (.read reference)) (address value : Int) {input : Input} {rest : List Input}
    (given : data.inputs = input :: rest) (valued : input.value = .ok value)
    (named : reference.Names data.store address) :
    Leads code origin initial (count + 1) (index + 1) ({ data with inputs := rest }.put address value) := by
  apply lead.advance found
  have taken := next_of_taken given
  rw [valued] at taken
  have resolved : reference.Names { data with inputs := rest }.store address := named
  rw [Instruction.execute, bind_ok taken, bind_ok resolved.address_eq]
  rfl

theorem write (found : code[index]? = some (.write reference)) (value : Int) (held : reference.Holds data.store value)
    (short : Numeral.Representable value) :
    Leads code origin initial (count + 1) (index + 1) (data.say [toString value]) := by
  apply lead.advance found
  rw [Instruction.execute, bind_ok held.value_eq]
  simp only [Numeral.text?_of_representable short, Numeral.ofList_write]
  rfl

end Rules
end Leads

/-- A machine at some line after some steps, none of which has failed. -/
def State.running (made index : Nat) (data : Data) : State :=
  ⟨⟨index, false, false, made⟩, data, List.replicate made none⟩

theorem State.step_running {code : List Instruction} {made index : Nat} {data : Data} {instruction : Instruction}
    (found : code[index]? = some instruction) :
    (running made index data).step code none = (running made index data).conclude (instruction.execute data) := by
  have reached : current code none (running made index data).status = .ok instruction := by
    simp [current, running, found]
  simp only [step, reached]
  rfl

/-- What the code leads to is what the abstract machine steps to. -/
theorem Leads.steps_eq {code : List Instruction} {origin count index : Nat} {initial data : Data}
    (lead : Leads code origin initial count index data) (made : Nat) :
    (State.running made origin initial).steps code none count = State.running (made + count) index data := by
  induction lead with
  | start => rfl
  | advance _ found done ih | go _ found done ih =>
    rw [State.steps, ih, State.step_running found, done]
    simp [State.running, State.conclude, List.replicate_succ', ← Nat.add_assoc]

/-- No jump goes astray that subtracts from a cell named outright. -/
def Instruction.steady : Instruction → Bool
  | .subtractJump (.indirect _) _ _ | .clearJump (.indirect _) _ => false
  | _ => true

theorem Instruction.not_strays_of_steady {instruction : Instruction} (steady : instruction.steady = true) (data : Data)
    (pc : Int) : ¬ instruction.Strays data pc := by
  intro strays
  obtain ⟨_, _, _, overwrites, _⟩ := strays
  cases overwrites <;> cases steady

theorem mem_of_current {code : List Instruction} {limit : Option Int} {status : Status} {instruction : Instruction}
    (reached : current code limit status = .ok instruction) : instruction ∈ code := by
  unfold current at reached
  repeat' split at reached
  all_goals cases reached
  next found => exact List.mem_of_getElem? found

theorem State.not_strays_of_steady {code : List Instruction} (steady : code.all (·.steady) = true) (limit : Option Int)
    (state : State) : ¬ state.Strays code limit := by
  intro strays
  obtain ⟨instruction, reached, strays⟩ := strays
  exact Instruction.not_strays_of_steady (List.all_eq_true.mp steady instruction (mem_of_current reached)) _ _ strays

end Abstract

namespace Machine

open Abstract

/-- A machine without a step limit, about to run some code in which no jump can go astray. -/
structure Starts (machine : Machine) (code : List Abstract.Instruction) (inputs : List Input) : Prop where
  accepts : machine.workspace.observer.Accepting
  code_eq : machine.code = code
  steady : code.all (·.steady) = true
  limit : machine.limit = none
  view : machine.view = State.start inputs

theorem starts_of_decoded {source : Text} {code : List Abstract.Instruction}
    (decoded : ((Program.load source).toOption.map fun program => decode program.lines.toList) = some code)
    (steady : code.all (·.steady) = true) {observer : Observer} (accepts : observer.Accepting) (inputs : List Input) :
    ∃ machine, load source inputs none observer = .ok machine ∧ machine.Starts code inputs := by
  cases loaded : Program.load source with
  | error diagnostic => simp [loaded, Except.toOption] at decoded
  | ok program =>
    simp only [loaded, Except.toOption, Option.map_some, Option.some.injEq] at decoded
    exact ⟨start program inputs none observer, bind_eq_ok.mpr ⟨program, loaded, rfl⟩, accepts, decoded, steady, rfl, rfl⟩

namespace Starts

variable {machine : Machine} {code : List Abstract.Instruction} {inputs : List Input} (starts : machine.Starts code inputs)
  {count index : Nat} {data : Data}
include starts

theorem worded : machine.Worded :=
  ⟨fun _ limited => nomatch starts.limit.symm.trans limited⟩

theorem view_steps (count : Nat) : (machine.steps count).view = (State.start inputs).steps code none count := by
  have follows := (view_steps_eq_iff starts.accepts count).mpr
  rw [starts.code_eq, starts.limit, starts.view] at follows
  exact follows (fun index _ => State.not_strays_of_steady starts.steady none _) count (Nat.le_refl count)

theorem view_running (lead : Leads code 0 (Data.start inputs) count index data) :
    (machine.steps count).view = State.running count index data := by
  have steps := lead.steps_eq 0
  rw [Nat.zero_add] at steps
  rw [starts.view_steps, ← steps]
  rfl

theorem unfinished_before (lead : Leads code 0 (Data.start inputs) count index data) {earlier : Nat}
    (before : earlier ≤ count) : (machine.steps earlier).status.finished = false := by
  have running : (machine.steps count).status = ⟨index, false, false, count⟩ :=
    congrArg State.status (starts.view_running lead)
  cases finished : (machine.steps earlier).status.finished with
  | false => rfl
  | true =>
    have still := (settled_between finished before).still
    rw [running] at still
    cases still

theorem runs (lead : Leads code 0 (Data.start inputs) count index data) {last : State} {earlier : List (Option Diagnostic)}
    {error? : Option Diagnostic} (stepped : (State.running count index data).step code none = last)
    (finished : last.status.finished = true) (reported : last.reports = earlier ++ [error?]) :
    ∃ final, machine.Runs final (error?.map .reported) ∧ final.view = last := by
  have := starts.worded
  have view : (machine.steps (count + 1)).view = last := by
    rw [starts.view_steps, State.steps, ← starts.view_steps, starts.view_running lead, stepped]
  have report : (machine.steps count).report? = error? := by
    have reports := congrArg State.reports view
    simp only [Machine.view, steps, step_trace, Array.toList_push, List.map_append, reported] at reports
    exact (List.cons.inj (List.append_inj' reports rfl).2).1
  refine ⟨machine.steps (count + 1), runs_iff.mpr ⟨count + 1, ⟨?_, ?_⟩, rfl, congrArg _ report.symm⟩, view⟩
  · rw [← view] at finished
    exact finished
  · intro earlier before
    exact starts.unfinished_before lead (by omega)

/-- A run that comes to a halting instruction halts there. -/
theorem halts (lead : Leads code 0 (Data.start inputs) count index data) (found : code[index]? = some .halt) :
    ∃ final, machine.Runs final none ∧ final.status = ⟨index, true, false, count + 1⟩ ∧
      final.workspace.data = data.say Command.haltMessages := by
  have stepped := @State.step_running code count index data _ found
  rw [execute_halt] at stepped
  obtain ⟨final, returned, view⟩ := starts.runs lead stepped rfl rfl
  exact ⟨final, returned, congrArg State.status view, congrArg State.data view⟩

/-- A run that comes to an instruction that fails ends with its error. -/
theorem fails (lead : Leads code 0 (Data.start inputs) count index data) {instruction : Abstract.Instruction}
    (found : code[index]? = some instruction) {fault : Fault} {after : Data}
    (failed : instruction.execute data = (.error fault, after)) :
    ∃ final, machine.Runs final (some (fault.atLine (index + 1))) ∧ final.status = ⟨index, false, true, count⟩ ∧
      final.workspace.data = after := by
  have stepped := @State.step_running code count index data _ found
  rw [failed] at stepped
  obtain ⟨final, returned, view⟩ := starts.runs lead stepped rfl rfl
  exact ⟨final, returned, congrArg State.status view, congrArg State.data view⟩

end Starts
end Machine
end RandomAccess
