import RandomAccess.CommandLine.Count

/-!
Options of the command line. An option is written by its long name, by any beginning of it that fits no
other, or by one letter; letters can share a dash. A value follows an equals sign, the letter itself, or
stands alone as the next argument, if that does not look like an option. Two dashes are not a value: an
option with these attached is left without one.
-/

namespace RandomAccess

/-- Where the inputs of a program come from. -/
inductive InputSource where
  /-- They are prompted for on the standard input. -/
  | prompt
  | listed (values : Text)
  /-- The option for them was given and left without a value. -/
  | lost
  deriving DecidableEq, Repr

structure Options where
  program? : Option Text := none
  inline? : Option Text := none
  inputs : InputSource := .prompt
  maxSteps : Int := 100000
  trace : Bool := false
  quiet : Bool := false
  verbose : Bool := false
  deriving DecidableEq, Repr

namespace Options

/-- Why there are no options to go by. -/
inductive Stop where
  /-- Help was asked for. -/
  | help
  | usage
  deriving DecidableEq, Repr

/-- An option without a value. -/
inductive Switch where
  | help
  | trace
  | quiet
  | verbose
  deriving DecidableEq, Repr

/-- An option with a value. -/
inductive Setting where
  | program
  | inline
  | input
  | maxSteps
  deriving DecidableEq, Repr

inductive Action where
  | switch (switch : Switch)
  | setting (setting : Setting)
  deriving DecidableEq, Repr

def longNames : List (Text × Action) :=
  [("--help".toList, .switch .help), ("--program".toList, .setting .program),
    ("--inline".toList, .setting .inline), ("--input".toList, .setting .input),
    ("--max-steps".toList, .setting .maxSteps), ("--trace".toList, .switch .trace),
    ("--quiet".toList, .switch .quiet), ("--verbose".toList, .switch .verbose)]

def letters : List (Char × Action) :=
  [('h', .switch .help), ('p', .setting .program), ('i', .setting .inline), ('t', .switch .trace),
    ('q', .switch .quiet), ('v', .switch .verbose)]

inductive Argument where
  | operand (text : Text)
  /-- The two dashes after which every argument is an operand. -/
  | divider
  | unknown
  /-- A long name, with what follows its equals sign. -/
  | long (action : Action) (attached? : Option Text)
  /-- A letter, with what follows it or its equals sign. -/
  | letter (action : Action) (attached? : Option Text)
  deriving DecidableEq, Repr

/-- What follows the first equals sign. -/
def afterEquals (text : Text) : Option Text :=
  match text.dropWhile (· != '=') with
  | _ :: value => some value
  | [] => none

/-- A line break at the very end does not count when a text is matched against a number. -/
def dropBreak (text : Text) : Text :=
  if text.getLast? = some '\n' then text.dropLast else text

/-- A minus sign and digits, with a decimal point at most. -/
def isNegativeNumber (text : Text) : Bool :=
  match dropBreak text with
  | '-' :: rest =>
    match rest.dropWhile Digit.isDigit with
    | [] => !rest.isEmpty
    | '.' :: decimals => !decimals.isEmpty && decimals.all Digit.isDigit
    | _ => false
  | _ => false

/-- An argument that starts with a dash and is no option: a negative number, or anything with a space
in it, is an operand all the same. -/
def unnamed (text : Text) : Argument :=
  if isNegativeNumber text || text.contains ' ' then .operand text else .unknown

/-- Read an argument as an option or an operand; `none` if it is short for two options. -/
def classify (text : Text) : Option Argument :=
  match text with
  | '-' :: '-' :: _ =>
    let name := text.takeWhile (· != '=')
    match longNames.lookup name with
    | some action => some (.long action (afterEquals text))
    | none =>
      match longNames.filter fun entry => name.isPrefixOf entry.1 with
      | [] => some (unnamed text)
      | [(_, action)] => some (.long action (afterEquals text))
      | _ => none
  | '-' :: letter :: rest =>
    match letters.lookup letter, rest with
    | none, _ => some (unnamed text)
    | some action, [] => some (.letter action none)
    | some action, '=' :: value => some (.letter action (some value))
    | some action, _ => some (.letter action (some rest))
  | _ => some (.operand text)

def classifyAll : List Text → Option (List Argument)
  | [] => some []
  | text :: rest =>
    if text = ['-', '-'] then some (.divider :: rest.map .operand)
    else do
      let argument ← classify text
      let arguments ← classifyAll rest
      pure (argument :: arguments)

/-- The options written in one argument, in order. -/
structure Group where
  switches : List Switch := []
  /-- A setting at the end, with its value if that is in the argument too. -/
  setting? : Option (Setting × Option Text) := none
  deriving DecidableEq, Repr

def Group.cons (switch : Switch) (group : Group) : Group :=
  { group with switches := switch :: group.switches }

/-- The options of letters that share a dash. All that follows the letter of a setting is its value. -/
def letterGroup : Text → Option Group
  | [] => some {}
  | letter :: rest =>
    match letters.lookup letter with
    | none => none
    | some (.setting setting) =>
      some { setting? := some (setting, if rest.isEmpty then none else some rest) }
    | some (.switch switch) => (letterGroup rest).map (.cons switch)

/-- Take an option argument apart. A switch does not take a value; after the letter of one, other
letters may follow, also behind an equals sign. -/
def group : Argument → Option Group
  | .long (.switch switch) none | .letter (.switch switch) none => some { switches := [switch] }
  | .long (.switch _) (some _) => none
  | .letter (.switch switch) (some attached) =>
    if attached.isEmpty then none else (letterGroup attached).map (.cons switch)
  | .long (.setting setting) attached? | .letter (.setting setting) attached? =>
    some { setting? := some (setting, attached?) }
  | .operand _ | .divider | .unknown => none

def switchOn (options : Options) : Switch → Except Stop Options
  | .help => .error .help
  | .trace => .ok { options with trace := true }
  | .quiet => .ok { options with quiet := true }
  | .verbose => .ok { options with verbose := true }

/-- Leave a setting without a value. Without one there is no step limit. -/
def clear (options : Options) : Setting → Options
  | .program => { options with program? := none }
  | .inline => { options with inline? := none }
  | .input => { options with inputs := .lost }
  | .maxSteps => { options with maxSteps := 0 }

def set (options : Options) (setting : Setting) (value : Text) : Except Stop Options :=
  if value = ['-', '-'] then .ok (options.clear setting)
  else
    match setting with
    | .program => .ok { options with program? := some value }
    | .inline => .ok { options with inline? := some value }
    | .input => .ok { options with inputs := .listed value }
    | .maxSteps =>
      match Count.parse? value with
      | some maxSteps => .ok { options with maxSteps }
      | none => .error .usage

/-- Apply the switches of a group, and then its setting. -/
def apply (options : Options) (switches : List Switch) (setting : Setting) (value : Text) :
    Except Stop Options := do
  let options ← switches.foldlM switchOn options
  options.set setting value

/-- Go through the arguments. One that nothing asked for is an error, but only at the end. -/
def collect (options : Options) (stray : Bool) : List Argument → Except Stop Options
  | [] => if stray then .error .usage else .ok options
  | .operand _ :: rest | .divider :: rest | .unknown :: rest => collect options true rest
  | argument :: rest =>
    match group argument with
    | none => .error .usage
    | some ⟨switches, none⟩ => do
      let options ← switches.foldlM switchOn options
      collect options stray rest
    | some ⟨switches, some (setting, some value)⟩ => do
      let options ← options.apply switches setting value
      collect options stray rest
    | some ⟨switches, some (setting, none)⟩ =>
      match rest with
      | .operand value :: rest => do
        let options ← options.apply switches setting value
        collect options stray rest
      | _ => .error .usage

/-- A text that was given and is not empty. -/
def given (text? : Option Text) : Option Text :=
  text?.filter fun text => !text.isEmpty

/-- The options that some arguments stand for. There has to be a program. -/
def parse (arguments : List Text) : Except Stop Options :=
  match classifyAll arguments with
  | none => .error .usage
  | some arguments => do
    let options ← collect {} false arguments
    if (given options.program?).isNone && (given options.inline?).isNone then .error .usage
    else pure options

/-- The step limit; zero stands for none. -/
def limit (options : Options) : Option Int :=
  if options.maxSteps = 0 then none else some options.maxSteps

end Options

end RandomAccess
