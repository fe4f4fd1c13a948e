import RandomAccess.Memory

/-!
An operand names a cell, names a cell through a pointer, or is a number of its own. Its value is read
from memory; its address is where a result goes. A pointer is followed once.
-/

namespace RandomAccess

inductive Operand.Mode where
  /-- `N`, the cell at `N`. -/
  | direct
  /-- `*N`, the cell whose address stands in the cell at `N`. -/
  | indirect
  /-- `=N`, the number `N` itself. -/
  | immediate
  deriving DecidableEq, Repr

/-- A token taken apart. The number is missing when the token does not have a numeral. -/
structure Operand where
  token : Text
  mode : Operand.Mode
  number? : Option Int
  deriving DecidableEq, Repr

namespace Operand

def ofToken (token : Text) : Operand :=
  match token with
  | '*' :: rest => ⟨token, .indirect, Numeral.parse? rest⟩
  | '=' :: rest => ⟨token, .immediate, Numeral.parse? rest⟩
  | _ => ⟨token, .direct, Numeral.parse? token⟩

def number (operand : Operand) : Except Fault Int :=
  match operand.number? with
  | some number => .ok number
  | none => .error (.invalidOperand operand.token)

/-- The integer an operand denotes. -/
def value (operand : Operand) (memory : Memory) : Except Fault Int := do
  let number ← operand.number
  match operand.mode with
  | .direct => memory.read number
  | .indirect => memory.read (← memory.read number)
  | .immediate => pure number

/-- Results go to natural addresses only. -/
def checkAddress (address : Int) : Except Fault Int :=
  if address < 0 then .error .invalidAddress else .ok address

/-- The address of the cell an operand names. A number of its own names none. -/
def address (operand : Operand) (memory : Memory) : Except Fault Int :=
  match operand.mode with
  | .direct => do checkAddress (← operand.number)
  | .indirect => do checkAddress (← memory.read (← operand.number))
  | .immediate => .error .invalidAddress

end Operand

end RandomAccess
