import RandomAccess.Fault

/-!
Memory is a finite map from integer addresses to integers, kept as the list of its cells in ascending
order of address, so that equal memories have equal cells. A cell that was never written is undefined.
-/

namespace RandomAccess

abbrev Cell := Int × Int

namespace Cell

/-- Strictly ascending addresses. -/
def Ascending (cells : List Cell) : Prop :=
  cells.Pairwise fun first second => first.1 < second.1

/-- Put a cell in its place among ascending ones; it replaces a cell of the same address. -/
def insert (address value : Int) : List Cell → List Cell
  | [] => [(address, value)]
  | cell :: rest =>
    if address < cell.1 then (address, value) :: cell :: rest
    else if address = cell.1 then (address, value) :: rest
    else cell :: insert address value rest

theorem mem_of_mem_insert {address value : Int} {cells : List Cell} {cell : Cell}
    (member : cell ∈ insert address value cells) : cell = (address, value) ∨ cell ∈ cells := by
  induction cells with
  | nil => simpa [insert] using member
  | cons first rest ih =>
    unfold insert at member
    split at member
    · simpa using member
    · split at member
      · simp only [List.mem_cons] at member ⊢
        exact member.imp_right .inr
      · simp only [List.mem_cons] at member ⊢
        rcases member with same | later
        · exact .inr (.inl same)
        · exact (ih later).imp_right .inr

theorem Ascending.insert {cells : List Cell} (ascending : Ascending cells) (address value : Int) :
    Ascending (insert address value cells) := by
  induction cells with
  | nil => simp [Cell.insert, Ascending]
  | cons first rest ih =>
    unfold Ascending at ascending
    rw [List.pairwise_cons] at ascending
    obtain ⟨least, tail⟩ := ascending
    unfold Cell.insert Ascending
    split
    next below =>
      refine List.pairwise_cons.2 ⟨fun cell member => ?_, List.pairwise_cons.2 ⟨least, tail⟩⟩
      rcases List.mem_cons.1 member with same | later
      · exact same ▸ below
      · exact Int.lt_trans below (least cell later)
    next notBelow =>
      split
      next same => exact List.pairwise_cons.2 ⟨fun cell member => same ▸ least cell member, tail⟩
      next other =>
        refine List.pairwise_cons.2 ⟨fun cell member => ?_, ih tail⟩
        rcases mem_of_mem_insert member with same | later
        · subst same
          show first.1 < address
          omega
        · exact least cell later

theorem lookup_cons (key : Int) (cell : Cell) (rest : List Cell) :
    (cell :: rest).lookup key = if key = cell.1 then some cell.2 else rest.lookup key := by
  obtain ⟨address, value⟩ := cell
  rw [List.lookup_cons]
  by_cases same : key = address
  · simp [same]
  · simp [same, beq_eq_false_iff_ne.2 same]

theorem lookup_insert (address value key : Int) (cells : List Cell) :
    (insert address value cells).lookup key =
      if key = address then some value else cells.lookup key := by
  induction cells with
  | nil => exact lookup_cons key (address, value) []
  | cons cell rest ih =>
    unfold insert
    split
    next => simp only [lookup_cons]
    next =>
      split
      next equal =>
        simp only [lookup_cons, ← equal]
        split <;> rfl
      next other =>
        simp only [lookup_cons, ih]
        by_cases here : key = cell.1
        · have elsewhere : key ≠ address := fun same => other (same ▸ here)
          simp only [if_pos here, if_neg elsewhere]
        · simp only [if_neg here]

end Cell

@[ext]
structure Memory where
  cells : List Cell
  ascending : Cell.Ascending cells

namespace Memory

/-- The address of the accumulator. -/
def accumulator : Int := 0

def empty : Memory := ⟨[], List.Pairwise.nil⟩

instance : DecidableEq Memory := fun first second =>
  if same : first.cells = second.cells then isTrue (Memory.ext same)
  else isFalse fun equal => same (congrArg cells equal)

def get? (memory : Memory) (address : Int) : Option Int :=
  memory.cells.lookup address

def contains (memory : Memory) (address : Int) : Bool :=
  (memory.get? address).isSome

def size (memory : Memory) : Nat :=
  memory.cells.length

/-- The value of a cell, which must have been written. -/
def read (memory : Memory) (address : Int) : Except Fault Int :=
  match memory.get? address with
  | some value => .ok value
  | none => .error (.memoryUndefined address)

def write (memory : Memory) (address value : Int) : Memory :=
  ⟨Cell.insert address value memory.cells, memory.ascending.insert address value⟩

@[simp]
theorem get?_empty (address : Int) : empty.get? address = none := rfl

theorem get?_write (memory : Memory) (address value key : Int) :
    (memory.write address value).get? key = if key = address then some value else memory.get? key :=
  Cell.lookup_insert address value key memory.cells

/-- The memory after some writes, in the order given. -/
def writeAll (memory : Memory) (writes : List Cell) : Memory :=
  writes.foldl (fun memory cell => memory.write cell.1 cell.2) memory

/-- Every address and every value can be written as a numeral. -/
def Representable (memory : Memory) : Prop :=
  ∀ cell ∈ memory.cells, Numeral.Representable cell.1 ∧ Numeral.Representable cell.2

instance (memory : Memory) : Decidable memory.Representable :=
  inferInstanceAs (Decidable (∀ cell ∈ memory.cells, _ ∧ _))

/-- The texts of cells, each made of the texts of its address and its value. -/
def cellTexts? (format : Text → Text → Text) (cells : List Cell) : Option (List Text) :=
  cells.mapM fun cell => do
    let address ← Numeral.text? cell.1
    let value ← Numeral.text? cell.2
    pure (format address value)

/-- All cells on one line, such as `[r0=1 r3=-2]`; nothing when a number is too long. -/
def text? (memory : Memory) : Option Text := do
  let cells ← cellTexts? (fun address value => 'r' :: address ++ '=' :: value) memory.cells
  pure ('[' :: [' '].intercalate cells ++ [']'])

/-- All cells as a table of pairs between braces, such as `0: 1, 3: -2`. -/
def tableText? (memory : Memory) : Option Text := do
  let cells ← cellTexts? (fun address value => address ++ ':' :: ' ' :: value) memory.cells
  pure ('\x7b' :: [',', ' '].intercalate cells ++ ['\x7d'])

end Memory

end RandomAccess
