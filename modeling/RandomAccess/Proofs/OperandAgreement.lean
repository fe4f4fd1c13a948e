import RandomAccess.Proofs.NaturalAddresses
import RandomAccess.Proofs.NumbersReadBack

/-! Every operand but a number of its own leads to a cell, and there is one way to it. As a source the operand reads that
cell, and as a target it checks the address of that cell. So the two agree on which cell it is and on what goes wrong on the
way there, and an operand through a pointer comes to the same as the number in the pointer, however the two are spelled. -/

namespace RandomAccess.Operand

/-- The address of the cell that an operand leads to, whether or not the cell is defined and results may go there. -/
def cell (operand : Operand) (memory : Memory) : Except Fault Int :=
  match operand.mode with
  | .direct => operand.number
  | .indirect => do memory.read (← operand.number)
  | .immediate => .error .invalidAddress

section Cell

variable {operand : Operand} {memory : Memory}

theorem address_eq_cell : operand.address memory = operand.cell memory >>= checkAddress := by
  unfold Operand.address cell
  cases operand.mode with
  | direct => rfl
  | indirect => cases operand.number <;> rfl
  | immediate => rfl

theorem value_eq_cell (leads : operand.mode ≠ .immediate) : operand.value memory = operand.cell memory >>= memory.read := by
  unfold Operand.value cell
  cases mode : operand.mode with
  | direct => rfl
  | indirect => cases operand.number <;> rfl
  | immediate => exact absurd mode leads

theorem cell_eq_ok_iff {address : Int} : operand.cell memory = .ok address ↔ operand.Names memory address := by
  unfold cell Names
  cases operand.mode with
  | direct => exact number_eq_ok_iff
  | indirect => simp only [bind_eq_ok, number_eq_ok_iff, Memory.read_eq_ok_iff]
  | immediate => simp

/-- On the way to a cell, the numeral may be missing, or the pointer may never have been written. -/
theorem kind_of_cell_eq_error (leads : operand.mode ≠ .immediate) {fault : Fault} (lost : operand.cell memory = .error fault) :
    fault.kind = .invalidOperand ∨ fault.kind = .memoryUndefined := by
  unfold cell at lost
  cases mode : operand.mode <;> simp only [mode, bind_eq_error, number_eq_error_iff, Memory.read_eq_error_iff] at lost
  case direct =>
    rw [lost.2]
    exact .inl rfl
  case indirect =>
    rcases lost with ⟨_, rfl⟩ | ⟨pointer, _, _, rfl⟩
    · exact .inl rfl
    · exact .inr rfl
  case immediate => exact absurd mode leads

end Cell

/-- What an operand comes to that leads to the cell at an address. -/
structure LeadsTo (operand : Operand) (memory : Memory) (address : Int) : Prop where
  defined : ∀ value, memory.get? address = some value → operand.value memory = .ok value
  undefined : memory.get? address = none → operand.value memory = .error (.memoryUndefined address)
  natural : 0 ≤ address → operand.address memory = .ok address
  negative : address < 0 → operand.address memory = .error .invalidAddress

section Leading

variable {operand other : Operand} {memory : Memory} {address : Int}

theorem leadsTo_of_cell (found : operand.cell memory = .ok address) : operand.LeadsTo memory address := by
  have value : operand.value memory = memory.read address := (cell_eq_ok_iff.mp found).value_eq
  have checked : operand.address memory = checkAddress address := by
    rw [address_eq_cell, found]
    rfl
  refine ⟨?_, ?_, ?_, ?_⟩
  · intro held defined
    rw [value]
    exact Memory.read_eq_ok_iff.mpr defined
  · intro undefined
    rw [value]
    exact Memory.read_eq_error_iff.mpr ⟨undefined, rfl⟩
  · intro natural
    rw [checked]
    exact checkAddress_eq_ok_iff.mpr ⟨natural, rfl⟩
  · intro negative
    rw [checked, checkAddress, if_pos negative]

theorem LeadsTo.value_eq (leads : operand.LeadsTo memory address) (same : other.LeadsTo memory address) :
    operand.value memory = other.value memory := by
  cases held : memory.get? address with
  | none => rw [leads.undefined held, same.undefined held]
  | some value => rw [leads.defined value held, same.defined value held]

theorem LeadsTo.address_eq (leads : operand.LeadsTo memory address) (same : other.LeadsTo memory address) :
    operand.address memory = other.address memory := by
  rcases Int.lt_or_le address 0 with negative | natural
  · rw [leads.negative negative, same.negative negative]
  · rw [leads.natural natural, same.natural natural]

end Leading

section Tokens

variable {token : Text} {memory : Memory}

/-- A numeral has no mark in front of it, so it stands for a cell as it is. -/
theorem ofToken_of_parse? {number : Int} (parsed : Numeral.parse? token = some number) :
    ofToken token = ⟨token, .direct, some number⟩ := by
  unfold ofToken
  split
  next => cases parsed
  next => cases parsed
  next => rw [parsed]

theorem leadsTo_direct {address : Int} (parsed : Numeral.parse? token = some address) :
    (ofToken token).LeadsTo memory address := by
  apply leadsTo_of_cell
  rw [ofToken_of_parse? parsed]
  rfl

theorem leadsTo_indirect {pointer address : Int} (parsed : Numeral.parse? token = some pointer)
    (held : memory.get? pointer = some address) : (ofToken ('*' :: token)).LeadsTo memory address := by
  apply leadsTo_of_cell
  exact cell_eq_ok_iff.mpr ⟨pointer, parsed, held⟩

theorem ofToken_mode : (ofToken token).mode = .immediate ↔ token.head? = some '=' := by
  unfold ofToken
  split
  next => simp
  next => simp
  next unmarked =>
    cases token with
    | nil => simp
    | cons first rest =>
      have other : first ≠ '=' := fun same => unmarked rest (by rw [same])
      simp [other]

end Tokens

/-- An operand through a pointer comes to the same as the number in the pointer, as a source and as a target: by their
decimal texts, and by any texts from which the two are read. It leads to the cell at that number, also where the number is too
long to be written. -/
theorem indirect_as_direct {memory : Memory} {p v : Int} (held : memory.get? p = some v) :
    (p.natAbs < 10 ^ 4300 → v.natAbs < 10 ^ 4300 →
      (ofToken ('*' :: Numeral.write p)).value memory = (ofToken (Numeral.write v)).value memory ∧
      (ofToken ('*' :: Numeral.write p)).address memory = (ofToken (Numeral.write v)).address memory) ∧
    (∀ pointer direct : Text, Numeral.parse? pointer = some p → Numeral.parse? direct = some v →
      (ofToken ('*' :: pointer)).value memory = (ofToken direct).value memory ∧
      (ofToken ('*' :: pointer)).address memory = (ofToken direct).address memory) ∧
    ∀ pointer : Text, Numeral.parse? pointer = some p → (ofToken ('*' :: pointer)).LeadsTo memory v := by
  have alike (pointer direct : Text) (through : Numeral.parse? pointer = some p) (straight : Numeral.parse? direct = some v) :
      (ofToken ('*' :: pointer)).value memory = (ofToken direct).value memory ∧
      (ofToken ('*' :: pointer)).address memory = (ofToken direct).address memory := by
    have leads : (ofToken ('*' :: pointer)).LeadsTo memory v := leadsTo_indirect through held
    have same : (ofToken direct).LeadsTo memory v := leadsTo_direct straight
    exact ⟨leads.value_eq same, leads.address_eq same⟩
  have written {n : Int} (short : n.natAbs < 10 ^ 4300) : Numeral.parse? (Numeral.write n) = some n := by
    rw [Numeral.parse?_write, if_pos (Numeral.representable_iff.mpr short)]
  refine ⟨?_, alike, ?_⟩
  · intro pointer direct
    exact alike _ _ (written pointer) (written direct)
  · intro pointer parsed
    exact leadsTo_indirect parsed held

/-- A pointer to a negative cell, spelled in two ways, and a pointer to an address that is too long to be written. -/
theorem indirect_as_direct_of_negative_cell :
    ∃ memory : Memory, memory.cells = [(-7, 5), (1, (Numeral.bound : Int)), (3, -7)] ∧
      (ofToken "*3".toList).value memory = .ok 5 ∧
      (ofToken "*3".toList).value memory = (ofToken "-7".toList).value memory ∧
      Numeral.parse? "\t+0٣x".toList = some 3 ∧ Numeral.parse? " -07.5".toList = some (-7) ∧
      (ofToken "*\t+0٣x".toList).address memory = (ofToken " -07.5".toList).address memory ∧
      (ofToken "*1".toList).LeadsTo memory Numeral.bound := by
  let memory := ((Memory.empty.write 3 (-7)).write (-7) 5).write 1 Numeral.bound
  have short : Numeral.Representable 3 ∧ Numeral.Representable (-7) := by decide +kernel
  have three : Numeral.parse? "\t+0٣x".toList = some 3 := by decide
  have seven : Numeral.parse? " -07.5".toList = some (-7) := by decide
  have negative : memory.get? 3 = some (-7) := rfl
  have long : memory.get? 1 = some (Numeral.bound : Int) := rfl
  obtain ⟨written, spelled, leads⟩ := indirect_as_direct negative
  obtain ⟨_, _, leadsFar⟩ := indirect_as_direct long
  exact ⟨memory, rfl, (leads "3".toList (by decide)).defined 5 rfl,
    (written (Numeral.representable_iff.mp short.1) (Numeral.representable_iff.mp short.2)).1, three, seven,
    (spelled _ _ three seven).2, leadsFar "1".toList (by decide)⟩

/-- What an operand is worth, by what it comes to as a target. -/
structure Agrees (operand : Operand) (memory : Memory) : Prop where
  worth : ∀ value, operand.value memory = .ok value ↔
    ∃ address, operand.address memory = .ok address ∧ memory.get? address = some value
  failures : ∀ fault, operand.address memory = .error fault →
    fault.kind = .invalidOperand ∨ fault.kind = .memoryUndefined ∨ fault.kind = .invalidAddress
  unnamed : ∀ fault, operand.address memory = .error fault → fault.kind = .invalidOperand ∨ fault.kind = .memoryUndefined →
    operand.value memory = .error fault
  misplaced : ∀ fault, operand.address memory = .error fault → fault.kind = .invalidAddress →
    ∃ address, address < 0 ∧ operand.Names memory address ∧ operand.value memory = .error (.memoryUndefined address)
  undefined : ∀ address, operand.address memory = .ok address → memory.get? address = none →
    operand.value memory = .error (.memoryUndefined address)

section Agreement

variable {operand : Operand} {memory : Memory}

theorem agrees_of_lost (leads : operand.mode ≠ .immediate) {fault : Fault} (lost : operand.cell memory = .error fault) :
    operand.Agrees memory := by
  have value : operand.value memory = .error fault := by
    rw [value_eq_cell leads, lost]
    rfl
  have address : operand.address memory = .error fault := by
    rw [address_eq_cell, lost]
    rfl
  have kind := kind_of_cell_eq_error leads lost
  refine ⟨?_, ?_, ?_, ?_, ?_⟩
  · simp [value, address]
  · intro other failed
    obtain rfl := Except.error.inj (address.symm.trans failed)
    exact kind.imp_right .inl
  · intro other failed _
    rw [value, ← address, failed]
  · intro other failed misplaced
    obtain rfl := Except.error.inj (address.symm.trans failed)
    rw [misplaced] at kind
    rcases kind with kind | kind <;> cases kind
  · simp [address]

theorem agrees_of_found (natural : memory.Natural) {address : Int} (found : operand.cell memory = .ok address) :
    operand.Agrees memory := by
  have leads := leadsTo_of_cell found
  rcases Int.lt_or_le address 0 with below | above
  · have nothing := leads.undefined (natural.get?_of_negative below)
    have refused := leads.negative below
    refine ⟨by simp [nothing, refused], ?_, ?_, ?_, by simp [refused]⟩
    · intro fault failed
      obtain rfl := Except.error.inj (refused.symm.trans failed)
      exact .inr (.inr rfl)
    · intro fault failed kind
      obtain rfl := Except.error.inj (refused.symm.trans failed)
      rcases kind with kind | kind <;> cases kind
    · intro fault _ _
      exact ⟨address, below, cell_eq_ok_iff.mp found, nothing⟩
  · have target := leads.natural above
    have value : operand.value memory = memory.read address := (cell_eq_ok_iff.mp found).value_eq
    refine ⟨?_, by simp [target], by simp [target], by simp [target], ?_⟩
    · intro held
      simp [value, target, Memory.read_eq_ok_iff]
    · intro other same undefined
      obtain rfl := Except.ok.inj (target.symm.trans same)
      exact leads.undefined undefined

theorem agrees_of_natural (natural : memory.Natural) (leads : operand.mode ≠ .immediate) : operand.Agrees memory := by
  cases found : operand.cell memory with
  | error fault => exact agrees_of_lost leads found
  | ok address => exact agrees_of_found natural found

end Agreement

/-- In a memory without negative addresses, an operand that is no number of its own is worth what is in the cell that it
names as a target, and fails as it does there; an address that is no target or holds nothing is undefined as a source. A number
of its own is never a target, and is worth the same in every memory. -/
theorem source_agrees_with_target {memory : Memory} (natural : ∀ cell ∈ memory.cells, 0 ≤ cell.1) (token : Text) :
    (token.head? ≠ some '=' → (ofToken token).Agrees memory) ∧
    (token.head? = some '=' → ∀ first second : Memory,
      (ofToken token).address first = .error .invalidAddress ∧ (ofToken token).value first = (ofToken token).value second) := by
  constructor
  · intro unmarked
    exact agrees_of_natural natural (mt ofToken_mode.mp unmarked)
  · intro marked first second
    have mode := ofToken_mode.mpr marked
    simp only [Operand.address, Operand.value, mode, and_self]

/-- Pointers that hold a negative number, an address where nothing is, and nothing; and a number of its own. -/
theorem source_agrees_with_target_of_negative_pointer :
    ∃ memory : Memory, memory.cells = [(1, -2), (3, 8), (4, 1)] ∧ (∀ cell ∈ memory.cells, 0 ≤ cell.1) ∧
      (ofToken "*4".toList).address memory = .ok 1 ∧ (ofToken "*4".toList).value memory = .ok (-2) ∧
      (ofToken "*1".toList).address memory = .error .invalidAddress ∧
      (∃ address, address < 0 ∧ (ofToken "*1".toList).Names memory address ∧
        (ofToken "*1".toList).value memory = .error (.memoryUndefined address)) ∧
      (ofToken "*3".toList).value memory = .error (.memoryUndefined 8) ∧
      (ofToken "*9".toList).value memory = .error (.memoryUndefined 9) ∧
      (ofToken "=4".toList).address memory = .error .invalidAddress ∧
      (ofToken "=4".toList).value memory = (ofToken "=4".toList).value .empty := by
  let memory := ((Memory.empty.write 3 8).write 1 (-2)).write 4 1
  have natural : ∀ cell ∈ memory.cells, 0 ≤ cell.1 := by decide
  have agrees (token : Text) (unmarked : token.head? ≠ some '=') := (source_agrees_with_target natural token).1 unmarked
  have literal := (source_agrees_with_target natural "=4".toList).2 rfl memory .empty
  exact ⟨memory, rfl, natural, rfl, ((agrees "*4".toList (by decide)).worth (-2)).mpr ⟨1, rfl, rfl⟩, rfl,
    (agrees "*1".toList (by decide)).misplaced _ rfl rfl, (agrees "*3".toList (by decide)).undefined 8 rfl rfl,
    (agrees "*9".toList (by decide)).unnamed _ rfl (.inr rfl), literal⟩

end RandomAccess.Operand
