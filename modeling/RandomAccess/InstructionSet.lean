import RandomAccess.Command
import RandomAccess.Source.Statement

/-!
The instructions a machine knows, by keyword. New ones can be added until the set is frozen; the
standard set is frozen from the start.
-/

namespace RandomAccess

/-- What an instruction does, apart from its operands. -/
inductive Operation where
  | skip
  | load
  | store
  | arithmetic (operation : Arithmetic)
  | jump
  | jumpIf (condition : Condition)
  | subtractJump
  | read
  | write
  | halt
  deriving DecidableEq, Repr

namespace Operation

/-- The command made of an operation and its operand tokens, if it takes that many. -/
def command? : Operation → List Text → Option Command
  | .skip, _ => some .skip
  | .load, [source] => some (.load (.ofToken source))
  | .store, [target] => some (.store (.ofToken target))
  | .arithmetic operation, [operand] => some (.arithmetic operation (.ofToken operand))
  | .jump, [label] => some (.jump label)
  | .jumpIf condition, [label] => some (.jumpIf condition label)
  | .subtractJump, [target, other, label] =>
    some (.subtractJump (.ofToken target) (.ofToken other) label)
  | .read, [target] => some (.read (.ofToken target))
  | .write, [source] => some (.write (.ofToken source))
  | .halt, [] => some .halt
  | _, _ => none

end Operation

structure Instruction where
  keyword : Text
  /-- The exact number of operands. -/
  arity : Int
  /-- A sample of its use, for the usage text. -/
  sample : String
  operation : Operation
  deriving DecidableEq, Repr

namespace Instruction

def usage (instruction : Instruction) : String :=
  let needs :=
    if instruction.arity = 0 then " command takes no arguments"
    else " command requires " ++ toString instruction.arity ++
      if instruction.arity = 1 then " argument" else " arguments"
  String.ofList instruction.keyword ++ needs ++ " (e.g. " ++ instruction.sample ++ ")"

/-- The command for some operand tokens; any other number of them is a usage error. -/
def command (instruction : Instruction) (operands : List Text) : Except Fault Command :=
  if (operands.length : Int) = instruction.arity then
    match instruction.operation.command? operands with
    | some command => .ok command
    | none => .error (.usage instruction.usage)
  else .error (.usage instruction.usage)

end Instruction

structure InstructionSet where
  instructions : List Instruction
  frozen : Bool
  deriving DecidableEq, Repr

namespace InstructionSet

/-- Why an instruction was not added. -/
inductive Refusal where
  | frozen
  | alreadyRegistered (keyword : Text)
  deriving DecidableEq, Repr

def Refusal.message : Refusal → String
  | .frozen => "Cannot register instructions: registry is frozen"
  | .alreadyRegistered keyword => "Instruction already registered: " ++ String.ofList keyword

/-- The standard instructions, in a set that can be added to. -/
def extensible : InstructionSet where
  frozen := false
  instructions :=
    [⟨"LOAD".toList, 1, "LOAD 0", .load⟩,
      ⟨"STORE".toList, 1, "STORE 1", .store⟩,
      ⟨"ADD".toList, 1, "ADD 1", .arithmetic .add⟩,
      ⟨"SUB".toList, 1, "SUB 1", .arithmetic .sub⟩,
      ⟨"MULT".toList, 1, "MULT 1", .arithmetic .mult⟩,
      ⟨"DIV".toList, 1, "DIV 1", .arithmetic .div⟩,
      ⟨"JUMP".toList, 1, "JUMP label", .jump⟩,
      ⟨"JZERO".toList, 1, "JZERO label", .jumpIf .zero⟩,
      ⟨"JGTZ".toList, 1, "JGTZ label", .jumpIf .positive⟩,
      ⟨"SJ".toList, 3, "SJ X,Y,Z", .subtractJump⟩,
      ⟨"READ".toList, 1, "READ 1", .read⟩,
      ⟨"WRITE".toList, 1, "WRITE 0", .write⟩,
      ⟨"HALT".toList, 0, "HALT", .halt⟩]

def freeze (set : InstructionSet) : InstructionSet :=
  { set with frozen := true }

def standard : InstructionSet :=
  extensible.freeze

def get? (set : InstructionSet) (keyword : Text) : Option Instruction :=
  set.instructions.find? (·.keyword == keyword)

/-- The keywords in code point order. -/
def keywords (set : InstructionSet) : List Text :=
  (set.instructions.map (·.keyword)).mergeSort Text.notAfter

/-- Add an instruction that only moves on to the next line. -/
def register (set : InstructionSet) (keyword : Text) (arity : Int) (sample : String) :
    Except Refusal InstructionSet :=
  if set.frozen then .error .frozen
  else if (set.get? keyword).isSome then .error (.alreadyRegistered keyword)
  else .ok { set with instructions := set.instructions ++ [⟨keyword, arity, sample, .skip⟩] }

/-- The command that a statement stands for. A statement without a keyword stands for nothing. -/
def decode (set : InstructionSet) (statement : Statement) : Except Fault Command :=
  if statement.keyword.isEmpty then .ok .skip
  else
    match set.get? statement.keyword with
    | some instruction => instruction.command statement.operands
    | none => .error (.unknownCommand statement.keyword)

end InstructionSet

end RandomAccess
