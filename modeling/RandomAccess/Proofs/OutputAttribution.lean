import RandomAccess.Proofs.StepAttempts
import RandomAccess.Proofs.StepFrame
import RandomAccess.Proofs.TraceLifecycle

/-! Where every line of the output belongs. A line is put out before the first step, by a step, or between two steps,
where it counts as the output of the earlier one, because the last entry of the trace shares the buffer of the machine. So
the lines put out are the opening ones, and then those of the entries of the trace, in order; and whoever receives the
output has received exactly these. A step that escapes takes the buffer from the last entry and leaves no entry of its own:
with a step limit too long to be written, what is put out after the first step belongs nowhere. -/

namespace RandomAccess

def Event.output? : Event → Option String
  | .output text => some text
  | _ => none

theorem Effect.filterMap_seen (effect : Effect) (observer : Observer) (memory : Memory) :
    (effect.seen observer memory).filterMap Event.output? = [] := by
  apply List.filterMap_eq_nil_iff.mpr
  intro event member
  rcases mem_seen member with ⟨_, rfl⟩ | ⟨_, rfl⟩ <;> rfl

theorem Effect.filterMap_output? (effect : Effect) (observer : Observer) (memory : Memory) :
    (effect.consequence observer memory).events.filterMap Event.output? = (effect.consequence observer memory).output := by
  simp only [consequence]
  cases effect.refusal? observer memory with
  | some fault => rfl
  | none => simp [filterMap_seen, List.filterMap_map, Function.comp_def, Event.output?]

namespace Machine

/-- The lines that the receiver of the output has been given, in order. -/
def delivered (machine : Machine) : List String :=
  machine.workspace.events.toList.filterMap Event.output?

/-- Every line put out has been delivered, and it is an opening line or belongs to an entry of the trace. -/
structure Attributed (opening : List String) (machine : Machine) : Prop where
  lines : machine.workspace.output.toList = opening ++ machine.trace.toList.flatMap Entry.output
  delivered : machine.delivered = machine.workspace.output.toList

section Step

variable (machine : Machine)

theorem entry_output : machine.entry.output = machine.consequence.output := by
  simp only [entry, outcome_eq, Consequence.outcome]

theorem output_step :
    machine.step.1.workspace.output.toList = machine.workspace.output.toList ++ machine.entry.output := by
  rw [step_workspace, Array.toList_appendList, entry_output]

theorem delivered_step : machine.step.1.delivered = machine.delivered ++ machine.entry.output := by
  rw [delivered, step_workspace, Array.toList_appendList, List.filterMap_append,
    filterMap_logged machine rfl fun _ _ => rfl, entry_output, consequence_eq, Consequence.asking_output]
  cases machine.attempt with
  | error fault => rfl
  | ok effect => exact congrArg (machine.delivered ++ ·) (effect.filterMap_output? _ _)

end Step

theorem emit_output (machine : Machine) (text : String) :
    (machine.emit text).workspace.output.toList = machine.workspace.output.toList ++ [text] :=
  Array.toList_push

theorem emit_delivered (machine : Machine) (text : String) :
    (machine.emit text).delivered = machine.delivered ++ [text] := by
  have events : (machine.emit text).workspace.events = machine.workspace.events.push (.output text) := rfl
  rw [delivered, events, Array.toList_push, List.filterMap_append]
  rfl

/-- Nothing shares the buffer. -/
theorem emit_unshared {machine : Machine} (unshared : machine.buffer.shared = false) (text : String) :
    (machine.emit text).trace = machine.trace ∧ (machine.emit text).buffer.shared = false := by
  obtain ⟨program, limit, status, workspace, trace, lines, shared⟩ := machine
  obtain rfl : shared = false := unshared
  exact ⟨rfl, rfl⟩

/-- The last entry shares the buffer. -/
theorem emit_shared {machine : Machine} {entries : Array Entry} {last : Entry} (begun : machine.trace = entries.push last)
    (shared : machine.buffer = ⟨last.output, true⟩) (text : String) :
    (machine.emit text).trace = entries.push { last with output := last.output ++ [text] } ∧
      (machine.emit text).buffer = ⟨last.output ++ [text], true⟩ := by
  obtain ⟨program, limit, status, workspace, trace, buffer⟩ := machine
  obtain rfl : trace = entries.push last := begun
  obtain rfl : buffer = ⟨last.output, true⟩ := shared
  refine ⟨Array.ext' ?_, rfl⟩
  simp [emit, List.modify_eq_take_drop]

namespace Attributed

variable {opening : List String} {machine : Machine} (attributed : machine.Attributed opening)
include attributed

theorem step [machine.Records] : machine.step.1.Attributed opening := by
  refine ⟨?_, ?_⟩
  · rw [output_step, attributed.lines, step_trace]
    simp
  · rw [delivered_step, output_step, attributed.delivered]

theorem steps [machine.Worded] (count : Nat) : (machine.steps count).Attributed opening := by
  induction count with
  | zero => exact attributed
  | succ count ih => exact ih.step

theorem ask : machine.ask.2.Attributed opening := by
  have events : machine.ask.2.workspace.events = machine.workspace.events.push .input := rfl
  refine ⟨attributed.lines, ?_⟩
  rw [Machine.delivered, events, Array.toList_push, List.filterMap_append]
  exact (List.append_nil _).trans attributed.delivered

theorem write (address value : Int) : (machine.write address value).1.Attributed opening := by
  have workspace : (machine.write address value).1.workspace = (machine.workspace.write address value).1 := rfl
  refine ⟨?_, ?_⟩
  · rw [workspace, Workspace.write_eq]
    exact attributed.lines
  · rw [Machine.delivered, workspace, Workspace.write_eq, Array.toList_appendList, List.filterMap_append,
      Effect.filterMap_seen, List.append_nil]
    exact attributed.delivered

/-- Before the first step a line is one more of the opening. -/
theorem emit_before (unbegun : machine.trace = #[]) (unshared : machine.buffer.shared = false) (text : String) :
    (machine.emit text).Attributed (opening ++ [text]) := by
  refine ⟨?_, ?_⟩
  · rw [emit_output, attributed.lines, (emit_unshared unshared text).1, unbegun]
    simp
  · rw [emit_output, emit_delivered, attributed.delivered]

/-- After it, a line belongs to the last entry. -/
theorem emit_after {entries : Array Entry} {last : Entry} (begun : machine.trace = entries.push last)
    (shared : machine.buffer = ⟨last.output, true⟩) (text : String) : (machine.emit text).Attributed opening := by
  refine ⟨?_, ?_⟩
  · rw [emit_output, attributed.lines, (emit_shared begun shared text).1, begun]
    simp
  · rw [emit_output, emit_delivered, attributed.delivered]

end Attributed

/-- What may be asked of a machine: the calls of a driver, and what may be done between its steps. -/
inductive Request where
  | call (call : Call)
  | emit (text : String)
  | ask
  | write (address value : Int)
  deriving DecidableEq, Repr

namespace Request

def isCall : Request → Bool
  | .call _ => true
  | _ => false

def text? : Request → Option String
  | .emit text => some text
  | _ => none

/-- A request that comes back, whether or not it raised an error. -/
inductive Leads : Request → Machine → Machine → Prop where
  | call {call : Call} {machine final : Machine} (returned : call.Returns machine final) : Leads (.call call) machine final
  | emit {machine : Machine} (text : String) : Leads (.emit text) machine (machine.emit text)
  | ask {machine : Machine} : Leads .ask machine machine.ask.2
  | write {machine : Machine} (address value : Int) : Leads (.write address value) machine (machine.write address value).1

/-- The texts that are put out before the first call. -/
def opening : List Request → List String
  | [] => []
  | .call _ :: _ => []
  | .emit text :: later => text :: opening later
  | .ask :: later | .write _ _ :: later => opening later

/-- The texts that are put out after it. -/
def closing : List Request → List String
  | [] => []
  | .call _ :: later => later.filterMap text?
  | .emit _ :: later | .ask :: later | .write _ _ :: later => closing later

theorem texts_concat {requests : List Request} {request : Request} (silent : request.text? = none) :
    (requests ++ [request]).filterMap text? = requests.filterMap text? := by
  simp [silent]

theorem opening_append_closing (requests : List Request) :
    opening requests ++ closing requests = requests.filterMap text? := by
  induction requests with
  | nil => rfl
  | cons first rest ih =>
    cases first with
    | call call => rfl
    | emit text => exact congrArg (text :: ·) ih
    | ask | write address value => exact ih

theorem opening_of_begun {requests : List Request} (begun : ∃ request ∈ requests, request.isCall = true)
    (later : List Request) : opening (requests ++ later) = opening requests := by
  induction requests with
  | nil => simp at begun
  | cons first rest ih =>
    cases first with
    | call call => rfl
    | emit text => exact congrArg (text :: ·) (ih (by simpa [isCall] using begun))
    | ask | write address value => exact ih (by simpa [isCall] using begun)

theorem opening_of_unbegun {requests : List Request} (unbegun : ∀ request ∈ requests, request.isCall = false)
    (later : List Request) : opening (requests ++ later) = opening requests ++ opening later := by
  induction requests with
  | nil => rfl
  | cons first rest ih =>
    obtain ⟨quiet, silent⟩ := List.forall_mem_cons.mp unbegun
    cases first with
    | call call => cases quiet
    | emit text => exact congrArg (text :: ·) (ih silent)
    | ask | write address value => exact ih silent

theorem begun_or_unbegun (requests : List Request) :
    (∃ request ∈ requests, request.isCall = true) ∨ ∀ request ∈ requests, request.isCall = false := by
  by_cases begun : ∃ request ∈ requests, request.isCall = true
  · exact .inl begun
  · apply Or.inr
    intro request member
    apply Bool.eq_false_iff.mpr
    intro calls
    exact begun ⟨request, member, calls⟩

/-- Only a text that is put out adds to the opening. -/
theorem opening_concat {requests : List Request} {request : Request} (silent : request.text? = none) :
    opening (requests ++ [request]) = opening requests := by
  rcases begun_or_unbegun requests with begun | unbegun
  · exact opening_of_begun begun [request]
  · have nothing : opening [request] = [] := by
      cases request with
      | emit text => cases silent
      | _ => rfl
    rw [opening_of_unbegun unbegun, nothing, List.append_nil]

end Request

theorem Request.Leads.limit {request : Request} {machine final : Machine} (leads : request.Leads machine final) :
    final.limit = machine.limit := by
  cases leads with
  | call returned =>
    obtain ⟨count, rfl⟩ := returned.steps
    exact steps_limit machine count
  | _ => rfl

/-- Some requests are made of a machine, in order, and their errors are caught. -/
inductive Handled (start : Machine) : List Request → Machine → Prop where
  | start : Handled start [] start
  | request {requests : List Request} {request : Request} {machine final : Machine}
      (handled : Handled start requests machine) (leads : request.Leads machine final) :
      Handled start (requests ++ [request]) final

theorem Handled.worded {start machine : Machine} {requests : List Request} (handled : start.Handled requests machine)
    [worded : start.Worded] : machine.Worded := by
  induction handled with
  | start => exact worded
  | request _ leads worded => exact ⟨fun most limited => worded.limit most (leads.limit.symm.trans limited)⟩

/-- There is an entry, and the last one shares the buffer. -/
def Begun (machine : Machine) : Prop :=
  ∃ (entries : Array Entry) (last : Entry), machine.trace = entries.push last ∧ machine.buffer = ⟨last.output, true⟩

theorem step_begun (machine : Machine) [machine.Records] : machine.step.1.Begun :=
  ⟨_, _, step_trace machine, step_buffer machine⟩

theorem Begun.steps {machine : Machine} [machine.Worded] (begun : machine.Begun) (count : Nat) :
    (machine.steps count).Begun := by
  cases count with
  | zero => exact begun
  | succ count => exact step_begun (machine.steps count)

/-- A call makes at least one attempt, unless the machine has finished. -/
theorem Call.Returns.begun {call : Call} {machine final : Machine} [machine.Worded] (returned : call.Returns machine final)
    (running : machine.status.finished = false) : final.Begun := by
  cases returned with
  | step | interactive => exact step_begun machine
  | run returned =>
    obtain ⟨_, finishes, rfl, _⟩ := runs_iff.mp returned
    obtain ⟨count, rfl⟩ := finishes.exists_succ running
    exact step_begun (machine.steps count)

/-- Nothing has been attempted yet. -/
structure Unbegun (machine : Machine) : Prop where
  trace : machine.trace = #[]
  running : machine.status.finished = false
  unshared : machine.buffer.shared = false

/-- What is so after some requests made of a loaded machine. The trace begins with the first call. -/
structure Opened (requests : List Request) (machine : Machine) : Prop where
  attributed : machine.Attributed (readyMessage :: Request.opening requests)
  unbegun : (∀ request ∈ requests, request.isCall = false) → machine.Unbegun
  begun : (∃ request ∈ requests, request.isCall = true) → machine.Begun

namespace Opened

variable {requests : List Request} {machine final : Machine} (opened : machine.Opened requests)
include opened

theorem call [machine.Worded] {call : Call} (returned : call.Returns machine final) :
    final.Opened (requests ++ [.call call]) := by
  obtain ⟨count, same⟩ := returned.steps
  refine ⟨?_, ?_, ?_⟩
  · rw [Request.opening_concat rfl, same]
    exact opened.attributed.steps count
  · intro unbegun
    have quiet := unbegun (.call call) (by simp)
    cases quiet
  · intro _
    rcases Request.begun_or_unbegun requests with begun | unbegun
    · rw [same]
      exact (opened.begun begun).steps count
    · exact returned.begun (opened.unbegun unbegun).running

theorem emit (text : String) : (machine.emit text).Opened (requests ++ [.emit text]) := by
  rcases Request.begun_or_unbegun requests with begun | unbegun
  · obtain ⟨entries, last, trace, shared⟩ := opened.begun begun
    refine ⟨?_, ?_, fun _ => ⟨entries, _, emit_shared trace shared text⟩⟩
    · rw [Request.opening_of_begun begun]
      exact opened.attributed.emit_after trace shared text
    · intro silent
      obtain ⟨request, member, calls⟩ := begun
      have quiet := silent request (List.mem_append_left _ member)
      rw [calls] at quiet
      cases quiet
  · have idle := opened.unbegun unbegun
    obtain ⟨trace, unshared⟩ := emit_unshared idle.unshared text
    refine ⟨?_, fun _ => ⟨trace.trans idle.trace, idle.running, unshared⟩, ?_⟩
    · rw [Request.opening_of_unbegun unbegun]
      exact opened.attributed.emit_before idle.trace idle.unshared text
    · intro begun
      obtain ⟨request, member, calls⟩ := begun
      rcases List.mem_append.mp member with earlier | last
      · rw [unbegun request earlier] at calls
        cases calls
      · rw [List.mem_singleton.mp last] at calls
        cases calls

/-- A request that makes no attempt and puts nothing out. -/
theorem silent {request : Request} (quiet : request.isCall = false) (textless : request.text? = none)
    (attributed : final.Attributed (readyMessage :: Request.opening requests)) (trace : final.trace = machine.trace)
    (status : final.status = machine.status) (buffer : final.buffer = machine.buffer) :
    final.Opened (requests ++ [request]) := by
  refine ⟨?_, ?_, ?_⟩
  · rw [Request.opening_concat textless]
    exact attributed
  · intro unbegun
    have idle := opened.unbegun fun request member => unbegun request (List.mem_append_left _ member)
    exact ⟨trace.trans idle.trace, status ▸ idle.running, buffer ▸ idle.unshared⟩
  · intro begun
    rw [Begun, trace, buffer]
    apply opened.begun
    simpa [quiet] using begun

end Opened

theorem load_opened {source : Text} {inputs : List Input} {limit : Option Int} {observer : Observer} {machine : Machine}
    (loads : load source inputs limit observer = .ok machine) : machine.Opened [] := by
  obtain ⟨program, _, rfl⟩ := load_eq_ok loads
  exact ⟨⟨rfl, rfl⟩, fun _ => ⟨rfl, rfl, rfl⟩, by simp⟩

theorem Handled.opened {start machine : Machine} [start.Worded] {requests : List Request} (initial : start.Opened [])
    (handled : start.Handled requests machine) : machine.Opened requests := by
  induction handled with
  | start => exact initial
  | request handled leads opened =>
    have := handled.worded
    cases leads with
    | call returned => exact opened.call returned
    | emit text => exact opened.emit text
    | ask => exact opened.silent rfl rfl opened.attributed.ask rfl rfl rfl
    | write address value => exact opened.silent rfl rfl (opened.attributed.write address value) rfl rfl rfl

/-- Until the next call, all that is put out belongs to the last entry, and no other entry changes. -/
theorem Handled.trace_between {start later : Machine} {entries : Array Entry} {entry : Entry} {between : List Request}
    (handled : start.Handled between later) (begun : start.trace = entries.push entry)
    (shared : start.buffer = ⟨entry.output, true⟩) (quiet : ∀ request ∈ between, request.isCall = false) :
    later.trace = entries.push { entry with output := entry.output ++ between.filterMap Request.text? } ∧
      later.buffer = ⟨entry.output ++ between.filterMap Request.text?, true⟩ := by
  induction handled with
  | start => simpa using ⟨begun, shared⟩
  | @request requests request machine final _ leads ih =>
    obtain ⟨trace, buffer⟩ := ih fun request member => quiet request (List.mem_append_left _ member)
    cases leads with
    | call returned =>
      have impossible := quiet _ (List.mem_append_right _ List.mem_cons_self)
      cases impossible
    | emit text =>
      rw [List.filterMap_append, ← List.append_assoc]
      exact emit_shared trace buffer text
    | ask | write =>
      rw [Request.texts_concat]
      · exact ⟨trace, buffer⟩
      · rfl

/-- What is so after some requests made of a machine whose steps all escape: there is nothing but an opening. -/
structure Lost (requests : List Request) (machine : Machine) : Prop where
  escapes : machine.Escapes
  trace : machine.trace = #[]
  unshared : machine.buffer.shared = false
  attributed : machine.Attributed (readyMessage :: requests.filterMap Request.text?)

theorem load_lost {source : Text} {inputs : List Input} {limit : Option Int} {observer : Observer} {machine : Machine}
    (loads : load source inputs limit observer = .ok machine) (escapes : machine.Escapes) : machine.Lost [] := by
  obtain ⟨program, _, rfl⟩ := load_eq_ok loads
  exact ⟨escapes, rfl, rfl, ⟨rfl, rfl⟩⟩

namespace Lost

variable {requests : List Request} {machine final : Machine} (lost : machine.Lost requests)
include lost

theorem lapsed : machine.lapsed.Lost requests :=
  ⟨lost.escapes, lost.trace, rfl, lost.attributed.lines, lost.attributed.delivered⟩

theorem call {call : Call} (returned : call.Returns machine final) : final.Lost requests := by
  obtain ⟨count, rfl⟩ := returned.steps
  cases count with
  | zero => exact lost
  | succ count =>
    rw [steps_of_escapes lost.escapes]
    exact lost.lapsed

theorem request {request : Request} (leads : request.Leads machine final) : final.Lost (requests ++ [request]) := by
  have silent (quiet : request.text? = none) (same : final.Lost requests) : final.Lost (requests ++ [request]) := by
    refine ⟨same.escapes, same.trace, same.unshared, ?_⟩
    rw [Request.texts_concat quiet]
    exact same.attributed
  cases leads with
  | call returned => exact silent rfl (lost.call returned)
  | emit text =>
    obtain ⟨trace, unshared⟩ := emit_unshared lost.unshared text
    refine ⟨lost.escapes, trace.trans lost.trace, unshared, ?_⟩
    rw [List.filterMap_append]
    exact lost.attributed.emit_before lost.trace lost.unshared text
  | ask => exact silent rfl ⟨lost.escapes, lost.trace, lost.unshared, lost.attributed.ask⟩
  | write address value =>
    exact silent rfl ⟨lost.escapes, lost.trace, lost.unshared, lost.attributed.write address value⟩

end Lost

theorem Handled.lost {start machine : Machine} {requests : List Request} (initial : start.Lost [])
    (handled : start.Handled requests machine) : machine.Lost requests := by
  induction handled with
  | start => exact initial
  | request _ leads lost => exact lost.request leads

/-- The output of a machine after some requests, with the step limit given. -/
structure Attribution (limit : Option Int) (requests : List Request) (machine : Machine) : Prop where
  /-- The receiver has been given all of the output. -/
  delivered : machine.delivered = machine.workspace.output.toList
  /-- The output is the ready message, the texts put out before the first call, and the output of the entries of the trace,
  unless the limit is too long to be written and a text is put out after the first call. -/
  lines : machine.workspace.output.toList =
      readyMessage :: Request.opening requests ++ machine.trace.toList.flatMap Entry.output ↔
    (∀ most, limit = some most → -(Numeral.bound : Int) < most) ∨ Request.closing requests = []
  /-- In that case there are no entries, and the texts belong nowhere. -/
  lost : ∀ most, limit = some most → most ≤ -(Numeral.bound : Int) →
    machine.trace = #[] ∧
      machine.workspace.output.toList = readyMessage :: (Request.opening requests ++ Request.closing requests)
  /-- The buffer is the output of the last entry. -/
  buffer : ∀ entry, machine.trace.back? = some entry → machine.buffer = ⟨entry.output, true⟩
  /-- The entry of a step has the lines that the step puts out and then the texts put out until the next call. -/
  between : (∀ most, limit = some most → -(Numeral.bound : Int) < most) → ∀ requests later,
    machine.step.1.Handled requests later → (∀ request ∈ requests, request.isCall = false) →
      ∃ own, machine.step.1.workspace.output.toList = machine.workspace.output.toList ++ own ∧
        later.trace = machine.trace.push { machine.entry with output := own ++ requests.filterMap Request.text? } ∧
        later.buffer = ⟨own ++ requests.filterMap Request.text?, true⟩

/-- A line put out belongs to an entry or to the opening, exactly if no step escapes before it. -/
theorem output_attributed {source : Text} {inputs : List Input} {limit : Option Int} {observer : Observer}
    {start machine : Machine} {requests : List Request} (loads : load source inputs limit observer = .ok start)
    (handled : start.Handled requests machine) : machine.Attribution limit requests := by
  by_cases short : ∀ most, limit = some most → -(Numeral.bound : Int) < most
  · have := load_worded loads short
    have := handled.worded
    have opened := handled.opened (load_opened loads)
    refine ⟨opened.attributed.delivered, iff_of_true opened.attributed.lines (.inl short), ?_, ?_, ?_⟩
    · intro most limited long
      exact absurd (short most limited) (Int.not_lt.mpr long)
    · intro entry held
      rcases Request.begun_or_unbegun requests with begun | unbegun
      · obtain ⟨entries, last, trace, shared⟩ := opened.begun begun
        rw [trace, Array.back?_push] at held
        rw [← Option.some.inj held]
        exact shared
      · rw [(opened.unbegun unbegun).trace] at held
        cases held
    · intro _ between later continued quiet
      exact ⟨machine.entry.output, output_step machine,
        continued.trace_between (step_trace machine) (step_buffer machine) quiet⟩
  · have escapes : start.Escapes := by
      simp only [Classical.not_forall, Int.not_lt, exists_prop] at short
      obtain ⟨most, limited, long⟩ := short
      exact load_escapes loads limited long
    have lost := handled.lost (load_lost loads escapes)
    have lines : machine.workspace.output.toList =
        readyMessage :: (Request.opening requests ++ Request.closing requests) := by
      rw [lost.attributed.lines, lost.trace, Request.opening_append_closing]
      simp
    refine ⟨lost.attributed.delivered, ?_, fun _ _ _ => ⟨lost.trace, lines⟩, ?_, fun worded => absurd worded short⟩
    · rw [lines, lost.trace, or_iff_right short]
      simp
    · intro entry held
      rw [lost.trace] at held
      cases held

/-- One text before the first call, one between two calls, and one after the halt. -/
theorem output_attributed_of_texts_between :
    ∃ start final, load "WRITE =1\nHALT".toList [] none .absent = .ok start ∧
      start.Handled [.emit "a", .call .step, .emit "b", .call .run, .emit "c"] final ∧
      final.trace.toList.map Entry.output = [["1", "b"], Command.haltMessages ++ ["c"]] ∧
      final.workspace.output.toList = [readyMessage, "a", "1", "b"] ++ Command.haltMessages ++ ["c"] ∧
      final.Attribution none [.emit "a", .call .step, .emit "b", .call .run, .emit "c"] := by
  let writing := start (.ofLines [⟨1, "WRITE =1".toList, none, "WRITE =1".toList⟩,
    ⟨2, "HALT".toList, none, "HALT".toList⟩]) [] none .absent
  have loads : load "WRITE =1\nHALT".toList [] none .absent = .ok writing := rfl
  let between := (writing.emit "a").step.1.emit "b"
  have begun : writing.Handled [.emit "a", .call .step, .emit "b"] between :=
    Handled.start.request (.emit "a") |>.request (.call .step) |>.request (.emit "b")
  have := load_worded loads nofun
  have := begun.worded
  have runs : between.Runs (between.steps 1) none :=
    runs_iff.mpr ⟨1, ⟨by decide +kernel, by decide +kernel⟩, rfl, by decide +kernel⟩
  have handled : writing.Handled [.emit "a", .call .step, .emit "b", .call .run, .emit "c"] ((between.steps 1).emit "c") :=
    begun.request (.call (.run runs)) |>.request (.emit "c")
  have attribution := output_attributed loads handled
  have outputs : ((between.steps 1).emit "c").trace.toList.map Entry.output = [["1", "b"], Command.haltMessages ++ ["c"]] := by
    decide +kernel
  refine ⟨writing, _, loads, handled, outputs, ?_, attribution⟩
  rw [attribution.lines.mpr (.inl nofun), List.flatMap, outputs]
  rfl

/-- With a limit that has one digit too many, a text put out after the first step is in no entry. -/
theorem output_unattributed :
    ∃ start final, load "HALT".toList [] (some (-Numeral.bound)) .absent = .ok start ∧
      start.Handled [.call .step, .emit "b"] final ∧ final.workspace.output.toList = [readyMessage, "b"] ∧
      final.trace = #[] ∧
      final.workspace.output.toList ≠
        readyMessage :: Request.opening [.call .step, .emit "b"] ++ final.trace.toList.flatMap Entry.output := by
  let limited := start (.ofLines [⟨1, "HALT".toList, none, "HALT".toList⟩]) [] (some (-Numeral.bound)) .absent
  have loads : load "HALT".toList [] (some (-Numeral.bound)) .absent = .ok limited := rfl
  have escapes : limited.Escapes := load_escapes loads rfl (Int.le_refl _)
  have handled : limited.Handled [.call .step, .emit "b"] (limited.step.1.emit "b") :=
    Handled.start.request (.call .step) |>.request (.emit "b")
  rw [step_of_escapes escapes] at handled
  have lines : (limited.lapsed.emit "b").workspace.output.toList = [readyMessage, "b"] := rfl
  have trace : (limited.lapsed.emit "b").trace = #[] := rfl
  refine ⟨limited, _, loads, handled, lines, trace, ?_⟩
  rw [lines, trace]
  decide

end Machine
end RandomAccess
