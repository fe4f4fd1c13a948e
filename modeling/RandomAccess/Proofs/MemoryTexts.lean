import RandomAccess.Panel
import RandomAccess.Proofs.NumbersReadBack

/-! The texts of a memory tell its cells. The line of all cells and the table on the panel are each divided by a character
that stands in none of their parts, and a part gives its address and its value as numerals with something else than a digit
behind them. However wide the numbers are, nothing else can be read from such a text. A number too long to be written
leaves the memory without either text. -/

namespace RandomAccess

namespace Text

/-- A part that can be told from others with the mark between them. -/
def Separable (mark : Char) (part : Text) : Prop :=
  part ≠ [] ∧ mark ∉ part

theorem filter_splitOn_intercalate {mark : Char} {parts : List Text} (separable : ∀ part ∈ parts, Separable mark part) :
    (([mark].intercalate parts).splitOn mark).filter (fun part => !part.isEmpty) = parts := by
  cases parts with
  | nil => rfl
  | cons first rest =>
    rw [List.splitOn_intercalate mark (fun part member => (separable part member).2) (List.cons_ne_nil _ _)]
    apply List.filter_eq_self.mpr
    intro part member
    simpa using (separable part member).1

theorem intercalate_inj {mark : Char} {first second : List Text} (separableFirst : ∀ part ∈ first, Separable mark part)
    (separableSecond : ∀ part ∈ second, Separable mark part)
    (same : [mark].intercalate first = [mark].intercalate second) : first = second := by
  rw [← filter_splitOn_intercalate separableFirst, same, filter_splitOn_intercalate separableSecond]

end Text

namespace Numeral

theorem notMem_write {c : Char} (blank : Text.isBlank c = true) (n : Int) : c ∉ write n := by
  intro member
  rw [isBlank_of_mem_write member] at blank
  cases blank

theorem exists_anatomy_of_opens {n : Int} {text : Text} (opens : (write n).Opens text) :
    ∃ anatomy : Anatomy text, anatomy.value = n := by
  cases opens with
  | intro blank ends => exact ⟨written n blank ends, value_written n blank ends⟩

/-- A text opens with one number only. -/
theorem eq_of_opens {n m : Int} {text : Text} (first : (write n).Opens text) (second : (write m).Opens text) : n = m := by
  obtain ⟨anatomy, rfl⟩ := exists_anatomy_of_opens first
  obtain ⟨other, rfl⟩ := exists_anatomy_of_opens second
  rw [anatomy.unique other]

theorem opens_before_mark (n : Int) {mark : Char} (other : Digit.isDigit mark = false) (rest : Text) :
    (write n).Opens (write n ++ mark :: rest) :=
  @Text.Opens.intro _ [] (mark :: rest) (List.forall_mem_nil _) (by simpa using other)

theorem opens_of_blank_append {gap : Text} (blank : Text.Blank gap) (n : Int) : (write n).Opens (gap ++ write n) := by
  have alone := @Text.Opens.intro (write n) gap [] blank (by simp)
  rwa [List.append_nil] at alone

end Numeral

/-- Cells have different texts if each text gives the address, behind some characters, and then the value, behind one. -/
theorem Cell.injective_of_opens (front back : Int → Text) (indent : Nat)
    (addressed : ∀ address value, (Numeral.write address).Opens ((front address ++ back value).drop indent))
    (valued : ∀ value, (Numeral.write value).Opens (back value).tail) :
    Function.Injective fun cell : Cell => front cell.1 ++ back cell.2 := by
  intro first second same
  have texts : front first.1 ++ back first.2 = front second.1 ++ back second.2 := same
  have address : first.1 = second.1 := by
    have opens := addressed second.1 second.2
    rw [← texts] at opens
    exact Numeral.eq_of_opens (addressed first.1 first.2) opens
  -- Only with the same address do the values stand at the same place.
  have backs : back first.2 = back second.2 := by
    rw [address] at texts
    exact List.append_cancel_left texts
  have value : first.2 = second.2 := Numeral.eq_of_opens (backs ▸ valued first.2) (valued second.2)
  exact Prod.ext address value

namespace Memory

/-- A cell in the line of all cells. -/
def cellText (cell : Cell) : Text :=
  'r' :: Numeral.write cell.1 ++ '=' :: Numeral.write cell.2

theorem cellText_injective : Function.Injective cellText := by
  refine Cell.injective_of_opens (fun address => 'r' :: Numeral.write address) (fun value => '=' :: Numeral.write value) 1 ?_ ?_
  · intro address value
    exact Numeral.opens_before_mark address (by decide) _
  · intro value
    exact @Numeral.opens_of_blank_append [] (List.forall_mem_nil _) value

theorem separable_cellText (cell : Cell) : Text.Separable ' ' (cellText cell) := by
  refine ⟨List.cons_ne_nil _ _, ?_⟩
  have clear := Numeral.notMem_write (show Text.isBlank ' ' = true by decide)
  simp [cellText, clear]

theorem text?_of_representable {memory : Memory} (short : memory.Representable) :
    memory.text? = some ('[' :: [' '].intercalate (memory.cells.map cellText) ++ [']']) := by
  have cells : cellTexts? (fun address value => 'r' :: address ++ '=' :: value) memory.cells =
      some (memory.cells.map cellText) := by
    apply mapM_eq_some_map
    intro cell member
    obtain ⟨address, value⟩ := short cell member
    simp only [Numeral.text?_of_representable address, Numeral.text?_of_representable value]
    rfl
  rw [text?, cells]
  rfl

theorem cells_eq_of_text? {first second : Memory} (shortFirst : first.Representable) (shortSecond : second.Representable)
    (same : first.text? = second.text?) : first.cells = second.cells := by
  rw [text?_of_representable shortFirst, text?_of_representable shortSecond] at same
  have lines : [' '].intercalate (first.cells.map cellText) = [' '].intercalate (second.cells.map cellText) :=
    List.append_cancel_right (List.cons.inj (Option.some.inj same)).2
  have separable (memory : Memory) : ∀ part ∈ memory.cells.map cellText, Text.Separable ' ' part :=
    List.forall_mem_map.mpr fun cell _ => separable_cellText cell
  exact List.map_injective_iff.mpr cellText_injective (Text.intercalate_inj (separable first) (separable second) lines)

end Memory

namespace Panel

/-- A register in the table, where the accumulator has a name of its own. -/
def rowName (address : Int) : Text :=
  if address = Memory.accumulator then "r0 (acc)".toList else 'r' :: Numeral.write address

/-- A row of the table. -/
def rowText (cell : Cell) : Text :=
  ' ' :: ' ' :: padRight 10 (rowName cell.1) ++ ' ' :: padLeft 12 (Numeral.write cell.2)

theorem blank_replicate (count : Nat) : Text.Blank (List.replicate count ' ') := by
  intro c member
  rw [List.eq_of_mem_replicate member]
  decide

/-- A row gives its address and then a space, also where the name of the accumulator goes on behind that. -/
theorem exists_padRight_rowName (address : Int) (shown : Text) :
    ∃ rest, padRight 10 (rowName address) ++ ' ' :: shown = 'r' :: Numeral.write address ++ ' ' :: rest := by
  unfold rowName
  split
  next accumulator =>
    subst accumulator
    exact ⟨"(acc)   ".toList ++ shown, rfl⟩
  next =>
    let gap := List.replicate (10 - ('r' :: Numeral.write address).length) ' '
    have spaces : gap ++ [' '] = ' ' :: gap := by rw [← List.replicate_succ', List.replicate_succ]
    refine ⟨gap ++ shown, ?_⟩
    rw [padRight, List.append_assoc, List.append_cons gap, spaces]
    rfl

theorem rowText_injective : Function.Injective rowText := by
  refine Cell.injective_of_opens (fun address => ' ' :: ' ' :: padRight 10 (rowName address))
    (fun value => ' ' :: padLeft 12 (Numeral.write value)) 3 ?_ ?_
  · intro address value
    obtain ⟨rest, shown⟩ := exists_padRight_rowName address (padLeft 12 (Numeral.write value))
    simp only [List.cons_append, shown, List.drop_succ_cons, List.drop_zero]
    exact Numeral.opens_before_mark address (by decide) rest
  · intro value
    exact Numeral.opens_of_blank_append (blank_replicate _) value

theorem separable_rowText (cell : Cell) : Text.Separable '\n' (rowText cell) := by
  refine ⟨List.cons_ne_nil _ _, ?_⟩
  have clear := Numeral.notMem_write (show Text.isBlank '\n' = true by decide)
  have named : '\n' ∉ rowName cell.1 := by
    unfold rowName
    split
    · decide
    · simp [clear]
  simp [rowText, padRight, padLeft, named, clear]

theorem row?_of_representable {cell : Cell} (address : Numeral.Representable cell.1) (value : Numeral.Representable cell.2) :
    row? cell = some (rowText cell) := by
  rw [row?, Numeral.text?_of_representable address, Numeral.text?_of_representable value]
  rfl

theorem memoryText?_of_representable {memory : Memory} (short : memory.Representable) :
    memoryText? memory =
      some (['\n'].intercalate ("MEMORY".toList :: List.replicate 30 '=' :: memory.cells.map rowText)) := by
  have rows : memory.cells.mapM row? = some (memory.cells.map rowText) := by
    apply mapM_eq_some_map
    intro cell member
    obtain ⟨address, value⟩ := short cell member
    exact row?_of_representable address value
  rw [memoryText?, rows]
  rfl

theorem cells_eq_of_memoryText? {first second : Memory} (shortFirst : first.Representable) (shortSecond : second.Representable)
    (same : memoryText? first = memoryText? second) : first.cells = second.cells := by
  rw [memoryText?_of_representable shortFirst, memoryText?_of_representable shortSecond] at same
  have separable (memory : Memory) :
      ∀ part ∈ "MEMORY".toList :: List.replicate 30 '=' :: memory.cells.map rowText, Text.Separable '\n' part := by
    rw [List.forall_mem_cons, List.forall_mem_cons, List.forall_mem_map]
    exact ⟨⟨by decide, by decide⟩, ⟨by decide, by decide⟩, fun cell _ => separable_rowText cell⟩
  have parts := Text.intercalate_inj (separable first) (separable second) (Option.some.inj same)
  exact List.map_injective_iff.mpr rowText_injective (List.cons.inj (List.cons.inj parts).2).2

theorem isSome_row?_iff {cell : Cell} :
    (row? cell).isSome = true ↔ Numeral.Representable cell.1 ∧ Numeral.Representable cell.2 := by
  constructor
  · intro shown
    obtain ⟨text, shown⟩ := Option.isSome_iff_exists.mp shown
    simp only [row?, Option.bind_eq_bind, Option.bind_eq_some_iff, Numeral.text?_eq_some_iff] at shown
    obtain ⟨_, ⟨address, _⟩, _, ⟨value, _⟩, _⟩ := shown
    exact ⟨address, value⟩
  · intro short
    rw [row?_of_representable short.1 short.2]
    rfl

theorem isSome_memoryText?_iff {memory : Memory} : (memoryText? memory).isSome = true ↔ memory.Representable := by
  have rows : (memory.cells.mapM row?).isSome = true ↔ memory.Representable := by
    rw [isSome_mapM_iff]
    exact forall₂_congr fun _ _ => isSome_row?_iff
  rw [memoryText?, ← rows]
  cases memory.cells.mapM row? <;> simp

end Panel

namespace Memory

/-- Two memories that can be written have the same text, or the same table, only if they have the same cells; and exactly
the memories with a number too long to be written have neither. -/
theorem texts_tell_cells :
    (∀ first second : Memory,
      (∀ cell ∈ first.cells, cell.1.natAbs < 10 ^ 4300 ∧ cell.2.natAbs < 10 ^ 4300) →
      (∀ cell ∈ second.cells, cell.1.natAbs < 10 ^ 4300 ∧ cell.2.natAbs < 10 ^ 4300) →
      (first.text? = second.text? → first.cells = second.cells) ∧
      (Panel.memoryText? first = Panel.memoryText? second → first.cells = second.cells)) ∧
    ∀ memory : Memory,
      (memory.text? = none ↔ ∃ cell ∈ memory.cells, 10 ^ 4300 ≤ cell.1.natAbs ∨ 10 ^ 4300 ≤ cell.2.natAbs) ∧
      (Panel.memoryText? memory = none ↔ ∃ cell ∈ memory.cells, 10 ^ 4300 ≤ cell.1.natAbs ∨ 10 ^ 4300 ≤ cell.2.natAbs) := by
  simp only [← Numeral.representable_iff]
  constructor
  · intro first second shortFirst shortSecond
    exact ⟨cells_eq_of_text? shortFirst shortSecond, Panel.cells_eq_of_memoryText? shortFirst shortSecond⟩
  · intro memory
    rw [← not_representable_iff, ← Option.not_isSome_iff_eq_none, ← Option.not_isSome_iff_eq_none, isSome_text?_iff,
      Panel.isSome_memoryText?_iff]
    exact ⟨Iff.rfl, Iff.rfl⟩

/-- Two memories whose numbers are wider than their columns, and one with an address too long to be written. -/
theorem texts_tell_cells_of_wide_numbers :
    let first := (empty.write 0 (-1)).write (-123456789012) 5
    let second := (empty.write 0 (-1)).write (-12345678901) 25
    first.text? ≠ second.text? ∧ Panel.memoryText? first ≠ Panel.memoryText? second ∧
      (first.write (-Numeral.bound) 3).text? = none ∧ Panel.memoryText? (first.write (-Numeral.bound) 3) = none := by
  intro first second
  obtain ⟨told, unwritten⟩ := texts_tell_cells
  have short {memory : Memory} (representable : memory.Representable) :
      ∀ cell ∈ memory.cells, cell.1.natAbs < 10 ^ 4300 ∧ cell.2.natAbs < 10 ^ 4300 := by
    intro cell member
    obtain ⟨address, value⟩ := representable cell member
    exact ⟨Numeral.representable_iff.mp address, Numeral.representable_iff.mp value⟩
  have different : first.cells ≠ second.cells := by decide
  obtain ⟨text, table⟩ := told first second (short (by decide +kernel)) (short (by decide +kernel))
  obtain ⟨noText, noTable⟩ := unwritten (first.write (-Numeral.bound) 3)
  have long : ∃ cell ∈ (first.write (-Numeral.bound) 3).cells,
      10 ^ 4300 ≤ cell.1.natAbs ∨ 10 ^ 4300 ≤ cell.2.natAbs := by
    refine ⟨(-Numeral.bound, 3), by decide +kernel, .inl ?_⟩
    rw [Int.natAbs_neg, Int.natAbs_natCast, Numeral.bound_eq, Numeral.digitLimit]
  exact ⟨fun same => different (text same), fun same => different (table same), noText.mpr long, noTable.mpr long⟩

end Memory
end RandomAccess
