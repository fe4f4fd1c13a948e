import Mathlib.Logic.Basic
import RandomAccess.Proofs.NumeralValues
import RandomAccess.Report

/-! The cells of a memory, and when they can be printed. They stand in ascending order, so a memory is known by what it
holds at each address. Its text, its table and the list of its changes all write numbers, and none of them can be written
once a number is too long. A long number that an earlier memory does not have is among the changes, so the changes of a
memory can be printed exactly if the memory can. -/

namespace RandomAccess

theorem Numeral.isSome_text?_iff {n : Int} : (text? n).isSome = true ↔ Representable n := by
  unfold text?
  split
  next short => simp [short]
  next long => simp [long]

theorem isSome_mapM_iff {α β : Type} {f : α → Option β} {members : List α} :
    (members.mapM f).isSome = true ↔ ∀ member ∈ members, (f member).isSome = true := by
  induction members with
  | nil => simp
  | cons first rest ih =>
    rw [List.mapM_cons, List.forall_mem_cons, ← ih]
    cases f first with
    | none => simp
    | some image => cases rest.mapM f <;> simp

theorem mapM_eq_some_map {α β : Type} {f : α → Option β} {g : α → β} {members : List α}
    (each : ∀ member ∈ members, f member = some (g member)) : members.mapM f = some (members.map g) := by
  induction members with
  | nil => rfl
  | cons first rest ih =>
    obtain ⟨head, tail⟩ := List.forall_mem_cons.mp each
    simp [List.mapM_cons, head, ih tail]

namespace Memory

theorem get?_eq_some_iff {memory : Memory} {address value : Int} :
    memory.get? address = some value ↔ (address, value) ∈ memory.cells := by
  obtain ⟨cells, ascending⟩ := memory
  change cells.lookup address = some value ↔ (address, value) ∈ cells
  induction cells with
  | nil => simp
  | cons cell rest ih =>
    obtain ⟨least, ascending⟩ := List.pairwise_cons.mp ascending
    rw [Cell.lookup_cons, List.mem_cons]
    split
    next same =>
      -- A later cell of the same address would come after itself.
      have absent : (address, value) ∉ rest := fun member => Int.lt_irrefl _ (same ▸ least _ member)
      rw [or_iff_left absent]
      simp [Prod.ext_iff, same, eq_comm]
    next other =>
      have different : (address, value) ≠ cell := fun equal => other (congrArg Prod.fst equal)
      rw [ih ascending, or_iff_right different]

theorem nodup_cells (memory : Memory) : memory.cells.Nodup := by
  apply memory.ascending.imp
  intro first second less same
  rw [same] at less
  exact Int.lt_irrefl _ less

/-- A memory is known by what its cells hold. -/
theorem eq_of_get? {first second : Memory} (same : ∀ address, first.get? address = second.get? address) :
    first = second := by
  have members (cell : Cell) : cell ∈ first.cells ↔ cell ∈ second.cells := by
    rw [← get?_eq_some_iff, ← get?_eq_some_iff, same]
  have permuted : first.cells.Perm second.cells :=
    (List.perm_ext_iff_of_nodup first.nodup_cells second.nodup_cells).mpr members
  apply Memory.ext
  apply permuted.eq_of_pairwise _ first.ascending second.ascending
  intro one other _ _ less more
  exact absurd (Int.lt_trans less more) (Int.lt_irrefl _)

theorem isSome_cellTexts?_iff {format : Text → Text → Text} {cells : List Cell} :
    (cellTexts? format cells).isSome = true ↔
      ∀ cell ∈ cells, Numeral.Representable cell.1 ∧ Numeral.Representable cell.2 := by
  rw [cellTexts?, isSome_mapM_iff]
  apply forall₂_congr
  intro cell _
  rw [← Numeral.isSome_text?_iff, ← Numeral.isSome_text?_iff]
  cases Numeral.text? cell.1 with
  | none => simp
  | some address => cases Numeral.text? cell.2 <;> simp

theorem isSome_text?_iff {memory : Memory} : memory.text?.isSome = true ↔ memory.Representable := by
  unfold text? Representable
  rw [← isSome_cellTexts?_iff]
  cases cellTexts? _ memory.cells <;> simp

theorem isSome_tableText?_iff {memory : Memory} : memory.tableText?.isSome = true ↔ memory.Representable := by
  unfold tableText? Representable
  rw [← isSome_cellTexts?_iff]
  cases cellTexts? _ memory.cells <;> simp

theorem not_representable_iff {memory : Memory} :
    ¬ memory.Representable ↔ ∃ cell ∈ memory.cells, 10 ^ 4300 ≤ cell.1.natAbs ∨ 10 ^ 4300 ≤ cell.2.natAbs := by
  simp only [Representable, Numeral.representable_iff, not_forall, not_and_or, Nat.not_lt, exists_prop]

theorem representable_empty : empty.Representable := by
  intro cell member
  cases member

theorem mem_changes_iff {earlier later : Memory} {change : Change} :
    change ∈ earlier.changes later ↔
      (change.address, change.new) ∈ later.cells ∧ change.old? = earlier.get? change.address ∧
        change.old? ≠ some change.new := by
  unfold changes
  rw [List.mem_filterMap]
  constructor
  · rintro ⟨cell, member, shown⟩
    dsimp only at shown
    split at shown
    · cases shown
    next different =>
      cases shown
      exact ⟨member, rfl, different⟩
  · rintro ⟨member, old, different⟩
    refine ⟨_, member, ?_⟩
    simp only [← old, if_neg different]

end Memory

theorem Change.isSome_text?_iff {change : Change} :
    change.text?.isSome = true ↔
      Numeral.Representable change.address ∧ (∀ old, change.old? = some old → Numeral.Representable old) ∧
        Numeral.Representable change.new := by
  obtain ⟨address, old?, new⟩ := change
  unfold Change.text?
  simp only [← Numeral.isSome_text?_iff]
  cases Numeral.text? address with
  | none => simp
  | some place =>
    cases old? with
    | none => cases Numeral.text? new <;> simp
    | some old =>
      cases written : Numeral.text? old with
      | none => simp [written]
      | some text => cases Numeral.text? new <;> simp [written]

/-- After a memory that can be printed, the changes can be printed if and only if the later memory can. -/
theorem Memory.changes_printable_iff {earlier later : Memory} (short : earlier.Representable) :
    (∀ change ∈ earlier.changes later, change.text?.isSome = true) ↔ later.Representable := by
  constructor
  · intro printed cell member
    by_cases kept : earlier.get? cell.1 = some cell.2
    · exact short cell (get?_eq_some_iff.mp kept)
    · have shown := printed ⟨cell.1, earlier.get? cell.1, cell.2⟩ (mem_changes_iff.mpr ⟨member, rfl, kept⟩)
      obtain ⟨address, _, new⟩ := Change.isSome_text?_iff.mp shown
      exact ⟨address, new⟩
  · intro long change member
    obtain ⟨held, old, _⟩ := mem_changes_iff.mp member
    obtain ⟨address, new⟩ := long _ held
    refine Change.isSome_text?_iff.mpr ⟨address, ?_, new⟩
    intro value before
    exact (short _ (get?_eq_some_iff.mp (old.symm.trans before))).2

end RandomAccess
