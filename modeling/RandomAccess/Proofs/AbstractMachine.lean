import Mathlib.Logic.Function.Basic
import RandomAccess.Machine

/-! The random access machine as a table of instructions has it. The text of a program is read once, ahead
of time: an operand becomes a reference to a cell or a number, a label the index of its line, and a line
that cannot be executed an instruction that fails when it is reached. The instructions work on a partial
map from addresses to numbers, and what an instruction does is a sequence of actions; the first that fails
ends it, and what was done before stays done. -/

namespace RandomAccess.Abstract

inductive Reference where
  | direct (cell : Int)
  | indirect (cell : Int)
  | immediate (number : Int)
  /-- A token without a numeral. It fails once it is looked at. -/
  | malformed (mode : Operand.Mode) (token : Text)
  deriving DecidableEq

def Reference.ofToken : Text → Reference
  | '*' :: rest =>
    match Numeral.parse? rest with
    | some cell => .indirect cell
    | none => .malformed .indirect ('*' :: rest)
  | '=' :: rest =>
    match Numeral.parse? rest with
    | some number => .immediate number
    | none => .malformed .immediate ('=' :: rest)
  | token =>
    match Numeral.parse? token with
    | some cell => .direct cell
    | none => .malformed .direct token

inductive Target where
  | line (index : Int)
  | unresolved (label : Text)
  deriving DecidableEq

/-- The last line with a label, where the first of the lines has the index given. -/
def lastLabelled (label : Text) (index : Nat) : List Line → Option Nat
  | [] => none
  | line :: rest =>
    (lastLabelled label (index + 1) rest).or (if line.label? = some label then some index else none)

def Target.ofLabel (lines : List Line) (label : Text) : Target :=
  match lastLabelled label 0 lines with
  | some index => .line index
  | none => .unresolved label

inductive Instruction where
  | skip
  | load (source : Reference)
  | store (target : Reference)
  | arithmetic (operation : Arithmetic) (operand : Reference)
  | jump (target : Target)
  | jumpIf (condition : Condition) (target : Target)
  | subtractJump (minuend subtrahend : Reference) (target : Target)
  /-- A subtracting jump whose two operands are spelled alike. -/
  | clearJump (cell : Reference) (target : Target)
  | read (target : Reference)
  | write (source : Reference)
  | halt
  | fail (fault : Fault)
  deriving DecidableEq

namespace Instruction

def unary (usage : String) (make : Text → Instruction) : List Text → Instruction
  | [token] => make token
  | _ => .fail (.usage usage)

def subtraction (lines : List Line) : List Text → Instruction
  | [minuend, subtrahend, label] =>
    if minuend = subtrahend then .clearJump (.ofToken minuend) (.ofLabel lines label)
    else .subtractJump (.ofToken minuend) (.ofToken subtrahend) (.ofLabel lines label)
  | _ => .fail (.usage "SJ command requires 3 arguments (e.g. SJ X,Y,Z)")

def halting : List Text → Instruction
  | [] => .halt
  | _ => .fail (.usage "HALT command takes no arguments (e.g. HALT)")

def ofStatement (lines : List Line) (statement : Statement) : Instruction :=
  match String.ofList statement.keyword with
  | "" => .skip
  | "LOAD" => unary "LOAD command requires 1 argument (e.g. LOAD 0)" (.load <| .ofToken ·) statement.operands
  | "STORE" => unary "STORE command requires 1 argument (e.g. STORE 1)" (.store <| .ofToken ·) statement.operands
  | "ADD" => unary "ADD command requires 1 argument (e.g. ADD 1)" (.arithmetic .add <| .ofToken ·) statement.operands
  | "SUB" => unary "SUB command requires 1 argument (e.g. SUB 1)" (.arithmetic .sub <| .ofToken ·) statement.operands
  | "MULT" => unary "MULT command requires 1 argument (e.g. MULT 1)" (.arithmetic .mult <| .ofToken ·) statement.operands
  | "DIV" => unary "DIV command requires 1 argument (e.g. DIV 1)" (.arithmetic .div <| .ofToken ·) statement.operands
  | "JUMP" => unary "JUMP command requires 1 argument (e.g. JUMP label)" (.jump <| .ofLabel lines ·) statement.operands
  | "JZERO" =>
    unary "JZERO command requires 1 argument (e.g. JZERO label)" (.jumpIf .zero <| .ofLabel lines ·) statement.operands
  | "JGTZ" =>
    unary "JGTZ command requires 1 argument (e.g. JGTZ label)" (.jumpIf .positive <| .ofLabel lines ·) statement.operands
  | "SJ" => subtraction lines statement.operands
  | "READ" => unary "READ command requires 1 argument (e.g. READ 1)" (.read <| .ofToken ·) statement.operands
  | "WRITE" => unary "WRITE command requires 1 argument (e.g. WRITE 0)" (.write <| .ofToken ·) statement.operands
  | "HALT" => halting statement.operands
  | _ => .fail (.unknownCommand statement.keyword)

end Instruction

def decode (lines : List Line) : List Instruction :=
  lines.map fun line => .ofStatement lines (Statement.ofText line.text)

structure Data where
  store : Int → Option Int
  inputs : List Input
  output : List String

abbrev Routine := ExceptT Fault (StateM Data)

namespace Routine

def fetch (address : Int) : Routine Int := do
  match (← get).store address with
  | some value => pure value
  | none => throw (.memoryUndefined address)

def assign (address value : Int) : Routine Unit :=
  modify fun data => { data with store := Function.update data.store address (some value) }

/-- Take the next input. It is gone even if it is no number. -/
def next : Routine Int := do
  match (← get).inputs with
  | [] => throw .inputCancelled
  | input :: rest =>
    modify fun data => { data with inputs := rest }
    MonadExcept.ofExcept input.value

def print (line : String) : Routine Unit :=
  modify fun data => { data with output := data.output ++ [line] }

def natural (address : Int) : Routine Int :=
  if 0 ≤ address then pure address else throw .invalidAddress

end Routine

open Routine

def Reference.value : Reference → Routine Int
  | .direct cell => fetch cell
  | .indirect cell => do fetch (← fetch cell)
  | .immediate number => pure number
  | .malformed _ token => throw (.invalidOperand token)

def Reference.address : Reference → Routine Int
  | .direct cell => natural cell
  | .indirect cell => do natural (← fetch cell)
  | .immediate _ => throw .invalidAddress
  | .malformed .immediate _ => throw .invalidAddress
  | .malformed _ token => throw (.invalidOperand token)

def Target.go : Target → Routine Move
  | .line index => pure (.jump index)
  | .unresolved label => throw (.labelNotFound label)

/-- The remainder is zero, or of the divisor's sign and smaller than the divisor. -/
def Quotient (dividend divisor quotient : Int) : Prop :=
  ∃ remainder, dividend = quotient * divisor + remainder ∧
    (remainder = 0 ∨ remainder.sign = divisor.sign ∧ remainder.natAbs < divisor.natAbs)

theorem quotient_iff {dividend divisor : Int} (nonzero : divisor ≠ 0) (quotient : Int) :
    Quotient dividend divisor quotient ↔ quotient = dividend.fdiv divisor := by
  have unique (remainder : Int) : (dividend = quotient * divisor + remainder ∧
      (remainder = 0 ∨ remainder.sign = divisor.sign ∧ remainder.natAbs < divisor.natAbs)) ↔
      dividend.fdiv divisor = quotient ∧ dividend.fmod divisor = remainder := by
    rcases Int.lt_or_gt_of_ne nonzero with negative | positive
    · rw [Int.fdiv_fmod_unique' negative, Int.sign_eq_neg_one_of_neg negative, Int.sign_eq_neg_one_iff_neg,
        Int.mul_comm]
      omega
    · rw [Int.fdiv_fmod_unique positive, Int.sign_eq_one_of_pos positive, Int.sign_eq_one_iff_pos, Int.mul_comm]
      omega
  constructor
  · intro holds
    obtain ⟨remainder, divides⟩ := holds
    exact ((unique remainder).mp divides).1.symm
  · intro same
    exact ⟨_, (unique _).mpr ⟨same.symm, rfl⟩⟩

def quotient (dividend divisor : Int) (nonzero : divisor ≠ 0) :
    { result // ∀ other, Quotient dividend divisor other ↔ other = result } :=
  ⟨dividend.fdiv divisor, quotient_iff nonzero⟩

def combine (left right : Int) : Arithmetic → Routine Int
  | .add => pure (left + right)
  | .sub => pure (left - right)
  | .mult => pure (left * right)
  | .div => if zero : right = 0 then throw .divisionByZero else pure (quotient left right zero).val

def meets (value : Int) : Condition → Bool
  | .zero => value = 0
  | .positive => 0 < value

def Instruction.execute : Instruction → Routine Move
  | .skip => pure .advance
  | .load source => do
    assign 0 (← source.value)
    pure .advance
  | .store target => do
    assign (← target.address) (← fetch 0)
    pure .advance
  | .arithmetic operation operand => do
    assign 0 (← combine (← fetch 0) (← operand.value) operation)
    pure .advance
  | .jump target => target.go
  | .jumpIf condition target => do
    if meets (← fetch 0) condition then target.go else pure .advance
  | .subtractJump minuend subtrahend target => do
    let address ← minuend.address
    let difference := (← minuend.value) - (← subtrahend.value)
    assign address difference
    if difference = 0 then target.go else pure .advance
  | .clearJump cell target => do
    assign (← cell.address) 0
    target.go
  | .read target => do
    let value ← next
    assign (← target.address) value
    pure .advance
  | .write source => do
    match Numeral.text? (← source.value) with
    | some text => print (String.ofList text)
    | none => throw .tooLargeToWrite
    pure .advance
  | .halt => do
    print "Run successfully"
    print "--------------------"
    pure .halt
  | .fail fault => throw fault

structure State where
  status : Status
  data : Data
  /-- The error of every attempted step, or that it had none. -/
  reports : List (Option Diagnostic)

/-- The instruction to execute next, or why there is none. -/
def current (code : List Instruction) (limit : Option Int) (status : Status) : Except Fault Instruction :=
  if status.halted then .error .alreadyHalted
  else if status.errored then .error .alreadyFailed
  else if let some bound := limit.filter (· ≤ status.stepCount) then .error (.stepLimit bound)
  else if status.pc < 0 then .error .endOfProgram
  else
    match code[status.pc.toNat]? with
    | some instruction => .ok instruction
    | none => .error .endOfProgram

namespace State

/-- Before the first step the machine has said that it is ready. -/
def start (inputs : List Input) : State :=
  ⟨⟨0, false, false, 0⟩, ⟨fun _ => none, inputs, ["RAM compiler is ready"]⟩, []⟩

/-- The state after an instruction: a move is made and counted, an error ends the run. -/
def conclude (state : State) : Except Fault Move × Data → State
  | (.ok .advance, data) =>
    ⟨⟨state.status.pc + 1, state.status.halted, state.status.errored, state.status.stepCount + 1⟩, data,
      state.reports ++ [none]⟩
  | (.ok (.jump target), data) =>
    ⟨⟨target, state.status.halted, state.status.errored, state.status.stepCount + 1⟩, data, state.reports ++ [none]⟩
  | (.ok .halt, data) =>
    ⟨⟨state.status.pc, true, state.status.errored, state.status.stepCount + 1⟩, data, state.reports ++ [none]⟩
  | (.error fault, data) =>
    ⟨⟨state.status.pc, state.status.halted, true, state.status.stepCount⟩, data,
      state.reports ++ [some (fault.atLine (state.status.pc + 1))]⟩

/-- A refusal that cannot be put into words leaves no trace. -/
def step (code : List Instruction) (limit : Option Int) (state : State) : State :=
  match current code limit state.status with
  | .ok instruction => state.conclude (instruction.execute state.data)
  | .error fault => if fault.Worded then state.conclude (.error fault, state.data) else state

def steps (code : List Instruction) (limit : Option Int) (state : State) : Nat → State
  | 0 => state
  | count + 1 => (state.steps code limit count).step code limit

end State
end RandomAccess.Abstract
