import RandomAccess.Operand
import RandomAccess.Source.Program
import RandomAccess.Status

/-!
A command is an instruction with its operands. What it does is one function of the program, the memory
and the next input: a cell to write, lines to put out, and where to go next. The accumulator is read
before the operand, a target before the accumulator, and an input before its target; a label is looked
up only when the jump is taken.
-/

namespace RandomAccess

inductive Arithmetic where
  | add
  | sub
  | mult
  | div
  deriving DecidableEq, Repr

namespace Arithmetic

/-- Division goes to the floor. -/
def apply : Arithmetic → Int → Int → Except Fault Int
  | .add, left, right => .ok (left + right)
  | .sub, left, right => .ok (left - right)
  | .mult, left, right => .ok (left * right)
  | .div, left, right => if right = 0 then .error .divisionByZero else .ok (left.fdiv right)

end Arithmetic

/-- What the accumulator has to be for a jump. -/
inductive Condition where
  | zero
  | positive
  deriving DecidableEq, Repr

namespace Condition

def holds : Condition → Int → Bool
  | .zero, value => value == 0
  | .positive, value => decide (0 < value)

end Condition

/-- What an input device answers. -/
inductive Input where
  | text (given : Text)
  | number (value : Int)
  /-- Nothing was given. -/
  | cancel
  /-- The device itself failed. -/
  | refuse (reason : String)
  deriving DecidableEq, Repr

namespace Input

def value : Input → Except Fault Int
  | .text given =>
    match Numeral.parse? given with
    | some value => .ok value
    | none => .error .invalidInput
  | .number value => .ok value
  | .cancel => .error .inputCancelled
  | .refuse reason => .error (.outOfRange reason)

end Input

inductive Command where
  /-- A line without an instruction, or an instruction without an effect. -/
  | skip
  | load (source : Operand)
  | store (target : Operand)
  | arithmetic (operation : Arithmetic) (operand : Operand)
  | jump (label : Text)
  | jumpIf (condition : Condition) (label : Text)
  /-- Subtract the second operand from the first in place, and jump at zero. -/
  | subtractJump (target other : Operand) (label : Text)
  | read (target : Operand)
  | write (source : Operand)
  | halt
  deriving DecidableEq, Repr

/-- What a command does. It may fail after its write, when it cannot find where to go next. -/
structure Effect where
  write? : Option Cell := none
  output : List String := []
  next : Except Fault Move := .ok .advance

namespace Effect

def store (address value : Int) : Effect :=
  { write? := some (address, value) }

def go (move : Move) : Effect :=
  { next := .ok move }

end Effect

/-- The jump to a label. -/
def Program.jump (program : Program) (label : Text) : Except Fault Move :=
  match program.target? label with
  | some target => .ok (.jump target)
  | none => .error (.labelNotFound label)

namespace Command

/-- What the machine says when it halts. -/
def haltMessages : List String :=
  ["Run successfully", "--------------------"]

/-- Whether a command takes an input. -/
def asks : Command → Bool
  | .read _ => true
  | _ => false

/-- What is left by subtracting one operand from another. Two operands of one spelling leave nothing,
and neither is read. -/
def difference (target other : Operand) (memory : Memory) : Except Fault Int :=
  if target.token = other.token then .ok 0
  else do
    let left ← target.value memory
    let right ← other.value memory
    pure (left - right)

/-- Jump if the cell that an operand names holds zero. -/
def jumpAtZero (program : Program) (memory : Memory) (target : Operand) (label : Text) :
    Except Fault Move := do
  let address ← target.address memory
  let value ← memory.read address
  if value = 0 then program.jump label else pure .advance

def effect (program : Program) (memory : Memory) (input : Input) : Command → Except Fault Effect
  | .skip => .ok (.go .advance)
  | .load source => do
    let value ← source.value memory
    pure (.store Memory.accumulator value)
  | .store target => do
    let address ← target.address memory
    let value ← memory.read Memory.accumulator
    pure (.store address value)
  | .arithmetic operation operand => do
    let left ← memory.read Memory.accumulator
    let right ← operand.value memory
    let result ← operation.apply left right
    pure (.store Memory.accumulator result)
  | .jump label => do
    let move ← program.jump label
    pure (.go move)
  | .jumpIf condition label => do
    let value ← memory.read Memory.accumulator
    if condition.holds value then
      let move ← program.jump label
      pure (.go move)
    else pure (.go .advance)
  | .subtractJump target other label => do
    let address ← target.address memory
    let value ← difference target other memory
    pure { write? := some (address, value),
           next := jumpAtZero program (memory.write address value) target label }
  | .read target => do
    let value ← input.value
    let address ← target.address memory
    pure (.store address value)
  | .write source => do
    let value ← source.value memory
    match Numeral.text? value with
    | some text => pure { output := [String.ofList text] }
    | none => .error .tooLargeToWrite
  | .halt => .ok { output := haltMessages, next := .ok .halt }

end Command

end RandomAccess
