import RandomAccess.Numeral
import RandomAccess.Text.Quoted

/-!
What can go wrong. A fault is a cause; a diagnostic is what is reported of it, with the source line
once that is known.
-/

namespace RandomAccess

inductive Fault.Kind where
  | invalidLabel
  | usage
  | unknownCommand
  | invalidOperand
  | invalidAddress
  | memoryUndefined
  | labelNotFound
  | divisionByZero
  | endOfProgram
  | alreadyFinished
  | inputCancelled
  | invalidInput
  | stepLimit
  deriving DecidableEq, Repr

namespace Fault.Kind

def all : List Kind :=
  [.invalidLabel, .usage, .unknownCommand, .invalidOperand, .invalidAddress, .memoryUndefined,
    .labelNotFound, .divisionByZero, .endOfProgram, .alreadyFinished, .inputCancelled,
    .invalidInput, .stepLimit]

def name : Kind → String
  | .invalidLabel => "invalid_label"
  | .usage => "usage"
  | .unknownCommand => "unknown_command"
  | .invalidOperand => "invalid_operand"
  | .invalidAddress => "invalid_address"
  | .memoryUndefined => "memory_undefined"
  | .labelNotFound => "label_not_found"
  | .divisionByZero => "division_by_zero"
  | .endOfProgram => "end_of_program"
  | .alreadyFinished => "already_finished"
  | .inputCancelled => "input_cancelled"
  | .invalidInput => "invalid_input"
  | .stepLimit => "step_limit"

def ofName? (name : String) : Option Kind :=
  all.find? fun kind => kind.name == name

/-- What is said of a name that no kind has. -/
def unknownName (name : String) : String :=
  String.ofList (Text.quoted name.toList) ++ " is not a valid ErrorKind"

/-- The family a kind belongs to. -/
def category : Kind → String
  | .invalidLabel => "load"
  | .usage | .unknownCommand | .invalidOperand => "syntax"
  | .invalidAddress => "addressing"
  | .memoryUndefined => "memory"
  | .labelNotFound => "control-flow"
  | .divisionByZero => "arithmetic"
  | .endOfProgram | .alreadyFinished => "bounds"
  | .inputCancelled | .invalidInput => "input"
  | .stepLimit => "limit"

end Fault.Kind

inductive Fault where
  /-- A label with a space or a tab in it. -/
  | invalidLabel (label : Text)
  /-- The wrong number of operands; the text says how the instruction is used. -/
  | usage (text : String)
  | unknownCommand (keyword : Text)
  /-- A token without a numeral. -/
  | invalidOperand (token : Text)
  /-- A number with too many digits for the output. -/
  | tooLargeToWrite
  /-- A collaborator of the machine refused a number. -/
  | outOfRange (reason : String)
  /-- A target that is a number of its own, or a negative address. -/
  | invalidAddress
  | memoryUndefined (address : Int)
  | labelNotFound (label : Text)
  | divisionByZero
  | endOfProgram
  | alreadyHalted
  | alreadyFailed
  | inputCancelled
  | invalidInput
  | stepLimit (limit : Int)
  deriving DecidableEq, Repr

namespace Fault

def kind : Fault → Kind
  | .invalidLabel _ => .invalidLabel
  | .usage _ => .usage
  | .unknownCommand _ => .unknownCommand
  | .invalidOperand _ | .tooLargeToWrite | .outOfRange _ => .invalidOperand
  | .invalidAddress => .invalidAddress
  | .memoryUndefined _ => .memoryUndefined
  | .labelNotFound _ => .labelNotFound
  | .divisionByZero => .divisionByZero
  | .endOfProgram => .endOfProgram
  | .alreadyHalted | .alreadyFailed => .alreadyFinished
  | .inputCancelled => .inputCancelled
  | .invalidInput => .invalidInput
  | .stepLimit _ => .stepLimit

/-- How much of a token an error message quotes. -/
def quotedLength : Nat := 32

/-- A number in a message, unless it is too long. -/
def written? (number : Int) : Option String :=
  (Numeral.text? number).map String.ofList

/-- An address in a message; one too long to be written is described by its size. -/
def addressText? (count : Int → Option String) (address : Int) : Option String :=
  match written? address with
  | some text => some text
  | none => (count (Numeral.bitLength address)).map fun bits => "<" ++ bits ++ "-bit address>"

/-- A step limit in a message. One that steps have been counted up to is such a count itself; one below zero may be too
long to be written. -/
def limitText? (count : Int → Option String) (limit : Int) : Option String :=
  if limit < 0 then written? limit else count limit

/-- The message of a fault, if all its numbers can be written. How the machine writes what it has counted is given. -/
def message? (count : Int → Option String) : Fault → Option String
  | .invalidLabel label => some ("Label " ++ String.ofList label ++ " is invalid")
  | .usage text => some text
  | .unknownCommand keyword => some ("Command " ++ String.ofList keyword ++ " is not found")
  | .invalidOperand token => some ("Operand " ++ String.ofList (token.take quotedLength) ++ " is invalid")
  | .tooLargeToWrite => some "Value is too large to write"
  | .outOfRange reason => some ("Value out of range: " ++ reason)
  | .invalidAddress => some "Invalid address"
  | .memoryUndefined address => (addressText? count address).map fun text => "Memory " ++ text ++ " is not defined"
  | .labelNotFound label => some ("Label " ++ String.ofList label ++ " is not found")
  | .divisionByZero => some "Division by zero"
  | .endOfProgram => some "EOF is reached. Did you forget to execute HALT?"
  | .alreadyHalted => some "Code is already finished"
  | .alreadyFailed => some "Code has already failed"
  | .inputCancelled => some "Input cancelled"
  | .invalidInput => some "Invalid input, expected a number"
  | .stepLimit limit => (limitText? count limit).map fun text => "Max steps (" ++ text ++ ") exceeded"

/-- A count is written in full: there is never more to count than can be written. -/
def counted (count : Int) : Option String :=
  some (toString count)

/-- The message is written without a number that is too long. -/
def Worded (fault : Fault) : Prop :=
  (fault.message? counted).isSome = true

instance (fault : Fault) : Decidable fault.Worded :=
  inferInstanceAs (Decidable (_ = true))

def message (fault : Fault) : String :=
  (fault.message? counted).getD ""

end Fault

/-- A reported error. -/
structure Diagnostic where
  kind : Fault.Kind
  message : String
  line : Option Int
  deriving DecidableEq, Repr

namespace Diagnostic

/-- Give the error a source line, unless it has one already. -/
def tag (diagnostic : Diagnostic) (line : Int) : Diagnostic :=
  { diagnostic with line := some (diagnostic.line.getD line) }

/-- The whole text of an error, with the source line in front; how the line is written is given. -/
def render? (count : Int → Option String) (diagnostic : Diagnostic) : Option String :=
  match diagnostic.line with
  | some line => (count line).map fun text => "Error at line " ++ text ++ ": " ++ diagnostic.message
  | none => some diagnostic.message

def render (diagnostic : Diagnostic) : String :=
  (diagnostic.render? Fault.counted).getD ""

def category (diagnostic : Diagnostic) : String :=
  diagnostic.kind.category

end Diagnostic

namespace Fault

/-- The report of a fault whose source line is not known. -/
def diagnostic (fault : Fault) : Diagnostic :=
  ⟨fault.kind, fault.message, none⟩

/-- The report of a fault at a source line. -/
def atLine (fault : Fault) (line : Int) : Diagnostic :=
  fault.diagnostic.tag line

end Fault

end RandomAccess
