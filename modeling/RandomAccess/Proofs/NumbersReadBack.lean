import RandomAccess.Proofs.ObserverIndependence
import RandomAccess.Proofs.WrittenNumerals

/-! Numbers that are put out can be taken in again. `WRITE` puts out an integer exactly if it is short enough, and from its
text `READ` stores the same integer, whatever blanks stand before the text and whatever follows it but a digit; `LOAD` takes
it as an operand. In turn an integer that was read from some text, however it was spelled there, is short enough. -/

namespace RandomAccess

/-- A text at the start of another one. Blanks may stand before it, and behind it anything that does not begin with a
digit: nothing, blanks, or other text. -/
inductive Text.Opens (text : Text) : Text → Prop where
  | intro {gap rest : Text} (blank : Blank gap) (ends : ∀ c, rest.head? = some c → Digit.isDigit c = false) :
      Opens text (gap ++ (text ++ rest))

theorem Numeral.parse?_of_opens {n : Int} {given : Text} (short : Representable n) (opens : (write n).Opens given) :
    parse? given = some n := by
  cases opens with
  | intro blank ends => rw [parse?_written n blank ends, if_pos short]

namespace Workspace

/-- An execution stored a value, and then went on, unless the observer refused the memory. -/
structure Stores (workspace : Workspace) (address value : Int) (outcome : Outcome) : Prop where
  memory : outcome.workspace.memory = workspace.memory.write address value
  next : workspace.observer.Accepts outcome.workspace.memory → outcome.next = .ok .advance

variable (workspace : Workspace) (program : Program) {statement : Statement}

theorem execute_attempted {effect : Effect}
    (attempted : statement.attempt program workspace.memory (workspace.inputs.headD .cancel) = .ok effect) :
    workspace.execute .standard program statement =
      ((effect.consequence workspace.observer workspace.memory).asking statement.reads).outcome workspace := by
  rw [execute_eq, Statement.consequence_eq, attempted]
  rfl

theorem execute_stores {address value : Int}
    (attempted : statement.attempt program workspace.memory (workspace.inputs.headD .cancel) = .ok (.store address value)) :
    workspace.Stores address value (workspace.execute .standard program statement) := by
  have written : (Effect.store address value).written workspace.memory = workspace.memory.write address value := rfl
  have memory : (workspace.execute .standard program statement).workspace.memory = workspace.memory.write address value := by
    rw [execute_attempted workspace program attempted, ← written]
    change (((Effect.store address value).consequence _ _).asking _).memory = _
    rw [Consequence.asking_memory, Effect.consequence]
    split <;> rfl
  refine ⟨memory, ?_⟩
  intro accepts
  rw [memory, ← written] at accepts
  rw [execute_attempted workspace program attempted]
  change (((Effect.store address value).consequence _ _).asking _).next = _
  rw [Consequence.asking_next, Effect.consequence, Effect.refusal?_of_accepts accepts]
  rfl

variable {v : Int}

section Write

variable {token : Text} (held : (Operand.ofToken token).value workspace.memory = .ok v)
include held

theorem execute_write (short : Numeral.Representable v) :
    workspace.execute .standard program ⟨"WRITE".toList, [token]⟩ =
      ⟨workspace.emit (String.ofList (Numeral.write v)), [String.ofList (Numeral.write v)], .ok .advance⟩ := by
  have decoded : InstructionSet.standard.decode ⟨"WRITE".toList, [token]⟩ = .ok (.write (.ofToken token)) := rfl
  have effect : (Command.write (.ofToken token)).effect program workspace.memory .cancel =
      .ok { output := [String.ofList (Numeral.write v)] } := by
    refine bind_eq_ok.mpr ⟨v, held, ?_⟩
    simp only [Numeral.text?_of_representable short]
    rfl
  rw [execute_of_decoded workspace decoded]
  change workspace.perform program (.write (.ofToken token)) .cancel = _
  rw [perform, effect]
  rfl

theorem execute_write_of_long (long : ¬ Numeral.Representable v) :
    workspace.execute .standard program ⟨"WRITE".toList, [token]⟩ = ⟨workspace, [], .error .tooLargeToWrite⟩ := by
  have decoded : InstructionSet.standard.decode ⟨"WRITE".toList, [token]⟩ = .ok (.write (.ofToken token)) := rfl
  have effect : (Command.write (.ofToken token)).effect program workspace.memory .cancel = .error .tooLargeToWrite := by
    refine bind_eq_error.mpr (.inr ⟨v, held, ?_⟩)
    have unwritten : Numeral.text? v = none := if_neg long
    simp only [unwritten]
  rw [execute_of_decoded workspace decoded]
  change workspace.perform program (.write (.ofToken token)) .cancel = _
  rw [perform, effect]

theorem write_succeeds_iff :
    (∃ move, (workspace.execute .standard program ⟨"WRITE".toList, [token]⟩).next = .ok move) ↔ Numeral.Representable v := by
  constructor
  · intro succeeds
    obtain ⟨move, next⟩ := succeeds
    by_contra long
    rw [execute_write_of_long workspace program held long] at next
    cases next
  · intro short
    rw [execute_write workspace program held short]
    exact ⟨_, rfl⟩

end Write

theorem execute_read {given target : Text} {inputs : List Input} {address : Int} (first : workspace.inputs = .text given :: inputs)
    (parsed : Numeral.parse? given = some v) (named : (Operand.ofToken target).address workspace.memory = .ok address) :
    workspace.Stores address v (workspace.execute .standard program ⟨"READ".toList, [target]⟩) := by
  apply execute_stores
  have value : (Input.text given).value = .ok v := by rw [Input.value, parsed]
  rw [first, Statement.attempt_eq_ok_iff]
  refine ⟨.read (.ofToken target), rfl, ?_⟩
  exact bind_eq_ok.mpr ⟨v, value, bind_eq_ok.mpr ⟨address, named, rfl⟩⟩

theorem value_immediate {given : Text} (parsed : Numeral.parse? given = some v) (memory : Memory) :
    (Operand.ofToken ('=' :: given)).value memory = .ok v :=
  bind_eq_ok.mpr ⟨v, Operand.number_eq_ok_iff.mpr parsed, rfl⟩

theorem execute_load {given : Text} (parsed : Numeral.parse? given = some v) :
    workspace.Stores Memory.accumulator v (workspace.execute .standard program ⟨"LOAD".toList, ['=' :: given]⟩) := by
  apply execute_stores
  rw [Statement.attempt_eq_ok_iff]
  refine ⟨.load (.ofToken ('=' :: given)), rfl, ?_⟩
  exact bind_eq_ok.mpr ⟨v, value_immediate parsed workspace.memory, rfl⟩

end Workspace

/-- A text from which instructions take an integer: `READ` as an input, and `LOAD` as an operand. -/
structure Text.Yields (given : Text) (v : Int) : Prop where
  read : ∀ (program : Program) (workspace : Workspace) (inputs : List Input) (target : Text) (address : Int),
    workspace.inputs = .text given :: inputs → (Operand.ofToken target).address workspace.memory = .ok address →
      workspace.Stores address v (workspace.execute .standard program ⟨"READ".toList, [target]⟩)
  load : ∀ (program : Program) (workspace : Workspace),
    workspace.Stores Memory.accumulator v (workspace.execute .standard program ⟨"LOAD".toList, ['=' :: given]⟩)

theorem Text.yields_of_parse? {given : Text} {v : Int} (parsed : Numeral.parse? given = some v) : given.Yields v where
  read program workspace _ _ _ first named := workspace.execute_read program first parsed named
  load program workspace := workspace.execute_load program parsed

namespace Workspace

/-- `WRITE` succeeds exactly for the integers of less than 4301 digits, and the text that it puts out yields the integer
again, wherever it opens a text. An integer that was read from any text has less than 4301 digits, so it can be put out, and
what is put out is read as that integer. -/
theorem numbers_read_back :
    (∀ (program : Program) (workspace : Workspace) (token : Text) (v : Int),
      (Operand.ofToken token).value workspace.memory = .ok v →
        ((∃ move, (workspace.execute .standard program ⟨"WRITE".toList, [token]⟩).next = .ok move) ↔
          v.natAbs < 10 ^ 4300) ∧
        (v.natAbs < 10 ^ 4300 → ∃ text : Text,
          workspace.execute .standard program ⟨"WRITE".toList, [token]⟩ =
            ⟨workspace.emit (String.ofList text), [String.ofList text], .ok .advance⟩ ∧
          ∀ given, text.Opens given → given.Yields v)) ∧
    ∀ (given : Text) (v : Int), Numeral.parse? given = some v →
      v.natAbs < 10 ^ 4300 ∧ ∃ text : Text, Numeral.parse? text = some v ∧
        ∀ (program : Program) (workspace : Workspace),
          workspace.execute .standard program ⟨"WRITE".toList, ['=' :: given]⟩ =
            ⟨workspace.emit (String.ofList text), [String.ofList text], .ok .advance⟩ := by
  simp only [← Numeral.representable_iff]
  constructor
  · intro program workspace token v held
    refine ⟨workspace.write_succeeds_iff program held, ?_⟩
    intro short
    refine ⟨Numeral.write v, workspace.execute_write program held short, ?_⟩
    intro given opens
    exact Text.yields_of_parse? (Numeral.parse?_of_opens short opens)
  · intro given v parsed
    have short := Numeral.parse?_representable parsed
    refine ⟨short, Numeral.write v, by rw [Numeral.parse?_write, if_pos short], ?_⟩
    intro program workspace
    exact workspace.execute_write program (value_immediate parsed workspace.memory) short

/-- The least number that can be put out, and the next after the greatest; and a number read from digits of two rows. -/
theorem numbers_read_back_of_boundary :
    ∃ (program : Program) (workspace : Workspace) (text : Text),
      workspace.memory.cells = [(1, 1 - (Numeral.bound : Int)), (2, (Numeral.bound : Int))] ∧
      (workspace.execute .standard program ⟨"WRITE".toList, ["1".toList]⟩).output = [String.ofList text] ∧
      (¬ ∃ move, (workspace.execute .standard program ⟨"WRITE".toList, ["2".toList]⟩).next = .ok move) ∧
      ((start [.text (['\t'] ++ (text ++ ['.', '5']))] .absent).execute .standard program
        ⟨"READ".toList, ["3".toList]⟩).workspace.memory.cells = [(3, 1 - (Numeral.bound : Int))] ∧
      Numeral.parse? "+0٤2x".toList = some 42 ∧
      ∃ again : Text, Numeral.parse? again = some 42 ∧
        (workspace.execute .standard program ⟨"WRITE".toList, ["=+0٤2x".toList]⟩).output = [String.ofList again] := by
  let program := Program.ofLines []
  let memory := (Memory.empty.write 1 (1 - Numeral.bound)).write 2 Numeral.bound
  let workspace : Workspace := { start [] .absent with memory }
  obtain ⟨writes, reads⟩ := numbers_read_back
  have least : (Operand.ofToken "1".toList).value workspace.memory = .ok (1 - Numeral.bound) := rfl
  have beyond : (Operand.ofToken "2".toList).value workspace.memory = .ok (Numeral.bound : Int) := rfl
  have short : Numeral.Representable (1 - Numeral.bound) := by
    have positive := Numeral.bound_pos
    unfold Numeral.Representable
    omega
  have long : ¬ Numeral.Representable Numeral.bound := by
    rw [Numeral.Representable, Int.natAbs_natCast]
    exact Nat.lt_irrefl _
  obtain ⟨text, written, yields⟩ := (writes program workspace _ _ least).2 (Numeral.representable_iff.mp short)
  have opens : text.Opens (['\t'] ++ (text ++ ['.', '5'])) := by
    refine .intro (by decide) ?_
    intro c first
    cases first
    decide
  have stored := (yields _ opens).read program (start [.text (['\t'] ++ (text ++ ['.', '5']))] .absent) [] "3".toList 3 rfl rfl
  have parsed : Numeral.parse? "+0٤2x".toList = some 42 := by decide
  obtain ⟨_, again, same, put⟩ := reads _ _ parsed
  refine ⟨program, workspace, text, rfl, by rw [written], ?_, ?_, parsed, again, same, ?_⟩
  · intro succeeds
    exact long (Numeral.representable_iff.mpr ((writes program workspace _ _ beyond).1.mp succeeds))
  · rw [stored.memory]
    rfl
  · exact congrArg Outcome.output (put program workspace)

end Workspace

end RandomAccess
