import RandomAccess.Operand

/-! The cell that an operand names. As a source the operand is worth what the cell holds, and as a target it
is the cell itself, if the address is natural. An operand that names no cell fails before memory is asked for
one, or asks for a pointer that was never written. -/

namespace RandomAccess

section Bind

variable {ε α β : Type} {first : Except ε α} {next : α → Except ε β}

theorem bind_eq_ok {result : β} :
    (first >>= next) = .ok result ↔ ∃ value, first = .ok value ∧ next value = .ok result := by
  cases first with
  | error fault => simp [bind, Except.bind]
  | ok value => simp [bind, Except.bind]

theorem bind_eq_error {fault : ε} :
    (first >>= next) = .error fault ↔ first = .error fault ∨ ∃ value, first = .ok value ∧ next value = .error fault := by
  cases first with
  | error fault => simp [bind, Except.bind]
  | ok value => simp [bind, Except.bind]

end Bind

namespace Memory

variable {memory : Memory} {address : Int}

theorem read_eq_ok_iff {value : Int} : memory.read address = .ok value ↔ memory.get? address = some value := by
  unfold read
  cases memory.get? address <;> simp

theorem read_eq_error_iff {fault : Fault} :
    memory.read address = .error fault ↔ memory.get? address = none ∧ fault = .memoryUndefined address := by
  unfold read
  cases memory.get? address <;> simp [eq_comm]

end Memory

namespace Operand

@[simp]
theorem ofToken_token (token : Text) : (ofToken token).token = token := by
  unfold ofToken
  split <;> rfl

variable {operand : Operand} {memory : Memory} {address : Int}

theorem number_eq_ok_iff {number : Int} : operand.number = .ok number ↔ operand.number? = some number := by
  unfold Operand.number
  cases operand.number? <;> simp

theorem number_eq_error_iff {fault : Fault} :
    operand.number = .error fault ↔ operand.number? = none ∧ fault = .invalidOperand operand.token := by
  unfold Operand.number
  cases operand.number? <;> simp [eq_comm]

theorem checkAddress_eq_ok_iff {result : Int} : checkAddress address = .ok result ↔ 0 ≤ result ∧ address = result := by
  unfold checkAddress
  split
  next negative =>
    constructor
    · intro impossible
      cases impossible
    · rintro ⟨natural, rfl⟩
      omega
  next natural =>
    constructor
    · intro same
      cases same
      exact ⟨by omega, rfl⟩
    · rintro ⟨_, rfl⟩
      rfl

theorem checkAddress_eq_error {fault : Fault} (refused : checkAddress address = .error fault) : fault = .invalidAddress := by
  unfold checkAddress at refused
  split at refused <;> cases refused
  rfl

/-- The operand names the cell at an address, directly or through a pointer that has been written. -/
def Names (operand : Operand) (memory : Memory) (address : Int) : Prop :=
  match operand.mode with
  | .direct => operand.number? = some address
  | .indirect => ∃ pointer, operand.number? = some pointer ∧ memory.get? pointer = some address
  | .immediate => False

theorem address_eq_ok_iff : operand.address memory = .ok address ↔ 0 ≤ address ∧ operand.Names memory address := by
  unfold Operand.address Names
  cases operand.mode with
  | direct =>
    simp only [bind_eq_ok, number_eq_ok_iff, checkAddress_eq_ok_iff]
    constructor
    · rintro ⟨_, known, natural, rfl⟩
      exact ⟨natural, known⟩
    · rintro ⟨natural, known⟩
      exact ⟨address, known, natural, rfl⟩
  | indirect =>
    simp only [bind_eq_ok, number_eq_ok_iff, Memory.read_eq_ok_iff, checkAddress_eq_ok_iff]
    constructor
    · rintro ⟨pointer, known, _, held, natural, rfl⟩
      exact ⟨natural, pointer, known, held⟩
    · rintro ⟨natural, pointer, known, held⟩
      exact ⟨pointer, known, address, held, natural, rfl⟩
  | immediate => simp

theorem Names.value_eq (names : operand.Names memory address) : operand.value memory = memory.read address := by
  unfold Names at names
  unfold Operand.value
  cases mode : operand.mode <;> simp only [mode] at names
  case direct =>
    rw [number_eq_ok_iff.mpr names]
    rfl
  case indirect =>
    obtain ⟨pointer, known, held⟩ := names
    rw [number_eq_ok_iff.mpr known]
    change (memory.read pointer >>= memory.read) = _
    rw [Memory.read_eq_ok_iff.mpr held]
    rfl

end Operand
end RandomAccess
