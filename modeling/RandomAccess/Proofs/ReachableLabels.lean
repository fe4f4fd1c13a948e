import RandomAccess.Proofs.LoadOutcome
import RandomAccess.Proofs.StatementLayout

/-! Which labels a jump can name. A line may carry any label without a space or a tab, but an operand has no blank of any
kind in it and ends at a comma, and an operand that stands alone is not empty. So a label that was loaded is named by a
jump exactly if it has no comma and no blank in it and, where it stands alone, is not empty. -/

namespace RandomAccess

namespace Text

/-- A text that is one operand, as far as commas and blanks go. -/
def Unbroken (text : Text) : Prop :=
  ',' ∉ text ∧ ∀ c ∈ text, isBlank c = false

instance (text : Text) : Decidable text.Unbroken :=
  @instDecidableAnd _ _ inferInstance (List.decidableBAll (isBlank · = false) text)

theorem splitOn_squeeze_iff {text : Text} : (squeeze text).splitOn ',' = [text] ↔ text.Unbroken := by
  constructor
  · intro split
    have joined := congrArg [','].intercalate split
    rw [List.intercalate_splitOn, List.intercalate_singleton] at joined
    have listed : text ∈ (squeeze text).splitOn ',' := by
      rw [split]
      exact List.mem_singleton_self text
    exact ⟨not_mem_of_mem_splitOn listed, squeeze_eq_self_iff.mp joined⟩
  · intro unbroken
    obtain ⟨single, visible⟩ := unbroken
    rw [squeeze_eq_self_iff.mpr visible, List.splitOn_eq_singleton single]

end Text

namespace Statement

/-- The keywords of the jumps with one operand. -/
def jumpKeywords : List Text :=
  ["JUMP".toList, "JZERO".toList, "JGTZ".toList]

variable {keyword first second label rest : Text}

theorem jump_solid (member : keyword ∈ jumpKeywords) : Text.Solid keyword ∧ keyword ≠ [] := by
  have all : ∀ keyword ∈ jumpKeywords, Text.Solid keyword ∧ keyword ≠ [] := by decide
  exact all keyword member

theorem operandsOf_squeeze_iff : operandsOf (Text.squeeze label) = [label] ↔ label ≠ [] ∧ label.Unbroken := by
  rw [operandsOf]
  constructor
  · intro alone
    split at alone
    next => cases alone
    next shown =>
      have unbroken := Text.splitOn_squeeze_iff.mp alone
      rw [Text.squeeze_eq_self_iff.mpr unbroken.2, List.isEmpty_iff] at shown
      exact ⟨shown, unbroken⟩
  · intro named
    obtain ⟨shown, unbroken⟩ := named
    have whole := Text.squeeze_eq_self_iff.mpr unbroken.2
    rw [if_neg (by rwa [whole, List.isEmpty_iff]), Text.splitOn_squeeze_iff.mpr unbroken]

/-- After two unbroken operands, a label is the third exactly if it is unbroken itself. -/
theorem operandsOf_squeeze_three_iff (one : first.Unbroken) (two : second.Unbroken) :
    operandsOf (Text.squeeze (first ++ ',' :: (second ++ ',' :: label))) = [first, second, label] ↔ label.Unbroken := by
  have comma (text : Text) : Text.squeeze (',' :: text) = ',' :: Text.squeeze text := rfl
  have shown : first ++ ',' :: (second ++ ',' :: Text.squeeze label) ≠ [] := by simp
  rw [Text.squeeze_append, comma, Text.squeeze_append, comma, Text.squeeze_eq_self_iff.mpr one.2,
    Text.squeeze_eq_self_iff.mpr two.2, operandsOf, if_neg (by rwa [List.isEmpty_iff]),
    List.splitOn_append_cons_self_of_not_mem one.1, List.splitOn_append_cons_self_of_not_mem two.1,
    ← Text.splitOn_squeeze_iff]
  simp only [List.cons.injEq, true_and]

/-- Whatever code follows a keyword and a space is squeezed and divided at its commas. -/
theorem ofText_keyword (solid : Text.Solid keyword) (nonempty : keyword ≠ []) (code : ';' ∉ rest) :
    ofText (keyword ++ ' ' :: rest) = ⟨keyword, operandsOf (Text.squeeze rest)⟩ := by
  have clear : ∀ c ∈ keyword, Text.isBlank c = false ∧ c ≠ ';' := fun c member => ⟨(solid c member).1, (solid c member).2.2⟩
  have ends : ∀ c, (' ' :: rest).head? = some c → Text.isBlank c = true := by
    intro c first
    cases first
    decide
  have split := @ofText_tail [] keyword (' ' :: rest) [] (by simp [Text.Blank]) clear nonempty ends (by simp [code]) .none
  rwa [List.nil_append, List.append_nil, Text.squeeze_cons, if_pos (by decide)] at split

end Statement

/-- The jumps with one operand that are taken with a memory. -/
inductive Memory.Jumps (memory : Memory) : Text → Prop where
  | always : Jumps memory "JUMP".toList
  | zero (held : memory.get? accumulator = some 0) : Jumps memory "JZERO".toList
  | positive {value : Int} (held : memory.get? accumulator = some value) (above : 0 < value) :
      Jumps memory "JGTZ".toList

theorem Memory.Jumps.mem {memory : Memory} {keyword : Text} (jumps : memory.Jumps keyword) :
    keyword ∈ Statement.jumpKeywords := by
  cases jumps <;> simp [Statement.jumpKeywords]

/-- A jump that is taken goes to the line that its label stands for. -/
theorem Workspace.execute_jumps {workspace : Workspace} {program : Program} {keyword label : Text} {index : Nat}
    (jumps : workspace.memory.Jumps keyword) (known : program.target? label = some index) :
    (workspace.execute .standard program ⟨keyword, [label]⟩).next = .ok (.jump index) := by
  have found : program.jump label = .ok (.jump index) := by rw [Program.jump, known]
  have taken (command : Command) (decoded : InstructionSet.standard.decode ⟨keyword, [label]⟩ = .ok command)
      (quiet : command.asks = false)
      (effect : command.effect program workspace.memory .cancel = .ok (.go (.jump index))) :
      (workspace.execute .standard program ⟨keyword, [label]⟩).next = .ok (.jump index) := by
    simp only [execute, decoded, quiet, Bool.false_eq_true, if_false, perform, effect]
    rfl
  cases jumps with
  | always => exact taken (.jump label) rfl rfl (bind_eq_ok.mpr ⟨_, found, rfl⟩)
  | zero held =>
    have read : workspace.memory.read Memory.accumulator = .ok 0 := by rw [Memory.read, held]
    apply taken (.jumpIf .zero label) rfl rfl
    exact bind_eq_ok.mpr ⟨0, read, bind_eq_ok.mpr ⟨_, found, rfl⟩⟩
  | @positive value held above =>
    have read : workspace.memory.read Memory.accumulator = .ok value := by rw [Memory.read, held]
    have holds : Condition.positive.holds value = true := decide_eq_true above
    apply taken (.jumpIf .positive label) rfl rfl
    refine bind_eq_ok.mpr ⟨value, read, ?_⟩
    rw [if_pos holds]
    exact bind_eq_ok.mpr ⟨_, found, rfl⟩

theorem Machine.step_jumps {machine : Machine} {text keyword label : Text} {index : Nat} (fetched : machine.fetched = .ok text)
    (named : Statement.ofText text = ⟨keyword, [label]⟩) (jumps : machine.memory.Jumps keyword)
    (known : machine.program.target? label = some index) :
    (∃ entry, machine.step.2 = .ok entry) ∧ machine.step.1.status = (machine.status.jump index).countStep := by
  have next : machine.outcome.next = .ok (.jump index) := by
    rw [outcome_next, consequence, fetched]
    dsimp only
    rw [named]
    have executed := Workspace.execute_jumps jumps known
    rw [Workspace.execute_eq] at executed
    exact executed
  have unreported : machine.report? = none := report?_eq_none_iff.mpr ⟨_, next⟩
  have := machine.records_of_text fetched
  constructor
  · refine ⟨machine.entry, ?_⟩
    rw [step_eq, unreported]
  · rw [step_status, next]
    rfl

namespace Program

theorem label_unmarked {source : Text} {program : Program} (loaded : load source = .ok program) {label : Text} {index : Nat}
    (known : program.target? label = some index) : ';' ∉ label := by
  have carried : index ∈ program.carriers label := (target?_eq_some_iff.mp known).1
  rw [carriers_eq loaded] at carried
  obtain ⟨raw, _, carries⟩ := carried
  exact carries.unmarked

/-- Of the labels of a program that was loaded, a jump with one operand can name those that are not empty and have no comma
and no blank in them, and then it leads to their lines. A subtracting jump can name the empty one as well. -/
theorem loaded_label_named_iff {source : Text} {program : Program} (loaded : load source = .ok program) {label : Text}
    {index : Nat} (known : program.table[label]? = some index) :
    (∀ keyword ∈ Statement.jumpKeywords,
      Statement.ofText (keyword ++ ' ' :: label) = ⟨keyword, [label]⟩ ↔ label ≠ [] ∧ label.Unbroken) ∧
    (label ≠ [] ∧ label.Unbroken → ∀ (machine : Machine) (keyword : Text), machine.program = program →
      machine.fetched = .ok (keyword ++ ' ' :: label) → machine.memory.Jumps keyword →
      (∃ entry, machine.step.2 = .ok entry) ∧ machine.step.1.status = (machine.status.jump index).countStep) ∧
    ∀ first second : Text, Text.Solid first → Text.Solid second → ',' ∉ first → ',' ∉ second →
      (Statement.ofText ("SJ".toList ++ ' ' :: (first ++ ',' :: (second ++ ',' :: label))) =
        ⟨"SJ".toList, [first, second, label]⟩ ↔ label.Unbroken) := by
  have code : ';' ∉ label := label_unmarked loaded known
  have single : ∀ keyword ∈ Statement.jumpKeywords,
      Statement.ofText (keyword ++ ' ' :: label) = ⟨keyword, [label]⟩ ↔ label ≠ [] ∧ label.Unbroken := by
    intro keyword member
    obtain ⟨solid, nonempty⟩ := Statement.jump_solid member
    rw [Statement.ofText_keyword solid nonempty code, Statement.mk.injEq, Statement.operandsOf_squeeze_iff]
    exact and_iff_right rfl
  refine ⟨single, ?_, ?_⟩
  · intro plain machine keyword same fetched jumps
    have named := (single keyword jumps.mem).mpr plain
    apply Machine.step_jumps fetched named jumps
    rw [same]
    exact known
  · intro first second one two unsplit intact
    have others : ';' ∉ first ++ ',' :: (second ++ ',' :: label) := by
      simp [one.not_mem (.inr (.inr rfl)), two.not_mem (.inr (.inr rfl)), code]
    have keyword : Text.Solid "SJ".toList ∧ "SJ".toList ≠ [] := by decide
    rw [Statement.ofText_keyword keyword.1 keyword.2 others, Statement.mk.injEq,
      Statement.operandsOf_squeeze_three_iff ⟨unsplit, fun c member => (one c member).1⟩
        ⟨intact, fun c member => (two c member).1⟩]
    exact and_iff_right rfl

/-- The second line has the empty label, and the label of the third has a non-breaking space in it. Of the three labels,
`JUMP` can name the first only; `SJ` can name the empty one as well, but not the third. -/
theorem loaded_label_named_iff_of_odd_labels :
    ∃ (program : Program) (machine : Machine), load "go:\n: JUMP go\na\u00a0b:".toList = .ok program ∧
      program.table["go".toList]? = some 0 ∧ program.table[([] : Text)]? = some 1 ∧
      program.table["a\u00a0b".toList]? = some 2 ∧ machine.program = program ∧
      machine.fetched = .ok "JUMP go".toList ∧ machine.step.1.status = ⟨0, false, false, 2⟩ ∧
      Statement.ofText "JUMP ".toList ≠ ⟨"JUMP".toList, [[]]⟩ ∧
      Statement.ofText "SJ 1,2,".toList = ⟨"SJ".toList, ["1".toList, "2".toList, []]⟩ ∧
      Statement.ofText "SJ 1,2,a\u00a0b".toList ≠ ⟨"SJ".toList, ["1".toList, "2".toList, "a\u00a0b".toList]⟩ := by
  let program := ofLines [⟨1, "go:".toList, some "go".toList, []⟩, ⟨2, ": JUMP go".toList, some [], "JUMP go".toList⟩,
    ⟨3, "a\u00a0b:".toList, some "a\u00a0b".toList, []⟩]
  let machine := (Machine.start program [] none .absent).step.1
  have loaded : load "go:\n: JUMP go\na\u00a0b:".toList = .ok program := rfl
  have plain : program.table["go".toList]? = some 0 := rfl
  have empty : program.table[([] : Text)]? = some 1 := rfl
  have odd : program.table["a\u00a0b".toList]? = some 2 := rfl
  have fetched : machine.fetched = .ok "JUMP go".toList := rfl
  obtain ⟨_, reached, _⟩ := loaded_label_named_iff loaded plain
  obtain ⟨alone, _, three⟩ := loaded_label_named_iff loaded empty
  obtain ⟨_, _, broken⟩ := loaded_label_named_iff loaded odd
  refine ⟨program, machine, loaded, plain, empty, odd, rfl, fetched, ?_, ?_, ?_, ?_⟩
  · exact (reached (by decide) machine "JUMP".toList rfl fetched .always).2
  · intro same
    exact ((alone "JUMP".toList (by decide)).mp same).1 rfl
  · exact (three "1".toList "2".toList (by decide) (by decide) (by decide) (by decide)).mpr (by decide)
  · intro same
    have whole := (broken "1".toList "2".toList (by decide) (by decide) (by decide) (by decide)).mp same
    revert whole
    decide

end Program
end RandomAccess
