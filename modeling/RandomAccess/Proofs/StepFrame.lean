import RandomAccess.Proofs.DriverCalls

/-! What an attempted step keeps, whether it succeeds or fails and whatever the observer says of it. Memory
stays as it was but for one cell at a natural address, inputs are only ever taken from the front, and nothing
that was logged is lost. -/

namespace RandomAccess

namespace Workspace

/-- What is kept from one workspace to a later one by the execution of one statement. -/
structure Frame (before after : Workspace) : Prop where
  memory : after.memory = before.memory ∨
    ∃ address value, 0 ≤ address ∧ after.memory = before.memory.write address value
  inputs : after.inputs <:+ before.inputs
  events : ∃ seen : List Event, after.events = before.events ++ seen ∧ ∀ event ∈ seen, event.isError = false

theorem frame_refl (workspace : Workspace) : Frame workspace workspace :=
  ⟨.inl rfl, List.suffix_refl _, [], by simp, by simp⟩

theorem write_eq (workspace : Workspace) (address value : Int) :
    (workspace.write address value).1 = { workspace with
      memory := workspace.memory.write address value
      events := workspace.events ++ (Effect.store address value).seen workspace.observer workspace.memory } := by
  simp only [write, Effect.seen, Effect.store]
  cases workspace.observer.look (workspace.memory.write address value) with
  | error fault => simp
  | ok event? => cases event? <;> simp

theorem apply_memory (workspace : Workspace) (effect : Effect) :
    (workspace.apply effect).workspace.memory = effect.written workspace.memory := by
  unfold Effect.written
  cases writes : effect.write? with
  | none => simp only [apply, writes, emitAll_eq]
  | some cell =>
    have written : (workspace.write cell.1 cell.2).1.memory = workspace.memory.write cell.1 cell.2 := by rw [write_eq]
    simp only [apply, writes, ← written]
    split
    next accepted => rw [accepted, emitAll_eq]
    next refused => rw [refused]

theorem mem_of_mem_apply_output {workspace : Workspace} {effect : Effect} {line : String}
    (member : line ∈ (workspace.apply effect).output) : line ∈ effect.output := by
  unfold apply at member
  split at member
  · exact member
  · split at member
    · exact member
    · cases member

theorem write_frame (workspace : Workspace) {address : Int} (natural : 0 ≤ address) (value : Int) :
    Frame workspace (workspace.write address value).1 := by
  rw [write_eq]
  refine ⟨.inr ⟨address, value, natural, rfl⟩, List.suffix_refl _, _, rfl, ?_⟩
  intro event member
  exact Effect.seen_not_error member

theorem Frame.emitAll {before after : Workspace} (frame : Frame before after) (lines : List String) :
    Frame before (after.emitAll lines) := by
  rw [emitAll_eq]
  obtain ⟨seen, logged, quiet⟩ := frame.events
  refine ⟨frame.memory, frame.inputs, seen ++ lines.map Event.output, ?_, ?_⟩
  · rw [logged]
    exact Array.ext' (by simp)
  · intro event member
    rcases List.mem_append.mp member with earlier | put
    · exact quiet event earlier
    · obtain ⟨line, _, rfl⟩ := List.mem_map.mp put
      rfl

theorem apply_frame (workspace : Workspace) {effect : Effect}
    (natural : ∀ address value, effect.write? = some (address, value) → 0 ≤ address) :
    Frame workspace (workspace.apply effect).workspace := by
  unfold apply
  split
  · exact (frame_refl workspace).emitAll effect.output
  next address value writes =>
    have written := write_frame workspace (natural address value writes) value
    split
    next accepted =>
      rw [accepted] at written
      exact written.emitAll effect.output
    next refused =>
      rw [refused] at written
      exact written

theorem perform_frame (workspace : Workspace) (program : Program) (command : Command) (input : Input) :
    Frame workspace (workspace.perform program command input).workspace := by
  unfold perform
  split
  next effect done =>
    apply apply_frame
    intro address value writes
    exact Command.effect_natural done writes
  next => exact frame_refl workspace

/-- Taking the input first costs a command that reads no more than that input. -/
theorem Frame.of_taken {workspace after : Workspace} {command : Command} (frame : Frame (workspace.taken command) after) :
    Frame workspace after := by
  cases asks : command.asks with
  | false =>
    have same : workspace.taken command = workspace := by simp [taken, asks]
    rwa [same] at frame
  | true =>
    have same : workspace.taken command = workspace.ask.2 := by simp [taken, asks]
    rw [same] at frame
    obtain ⟨seen, logged, quiet⟩ := frame.events
    refine ⟨frame.memory, frame.inputs.trans (List.tail_suffix _), .input :: seen, ?_, ?_⟩
    · rw [logged]
      exact Array.ext' (by simp [ask])
    · intro event member
      rcases List.mem_cons.mp member with rfl | later
      · rfl
      · exact quiet event later

theorem execute_frame (workspace : Workspace) (program : Program) (statement : Statement) :
    Frame workspace (workspace.execute .standard program statement).workspace := by
  cases decoded : InstructionSet.standard.decode statement with
  | error fault =>
    rw [execute_of_undecoded workspace decoded]
    exact frame_refl workspace
  | ok command =>
    rw [execute_of_decoded workspace decoded]
    apply Frame.of_taken
    exact perform_frame (workspace.taken command) program command _

end Workspace

theorem Machine.outcome_frame (machine : Machine) : Workspace.Frame machine.workspace machine.outcome.workspace := by
  unfold outcome
  split
  · exact Workspace.frame_refl machine.workspace
  · exact Workspace.execute_frame machine.workspace machine.program _

end RandomAccess
