import RandomAccess.Numeral

/-!
Where a run stands: the index of the next line, whether it has halted or failed, and how many steps
it has made. Once halted or failed, a run is finished.
-/

namespace RandomAccess

structure Status where
  pc : Int := 0
  halted : Bool := false
  errored : Bool := false
  stepCount : Int := 0
  deriving DecidableEq, Repr

/-- What a successful instruction does to the program counter. -/
inductive Move where
  | advance
  | jump (target : Int)
  | halt
  deriving DecidableEq, Repr

namespace Status

def finished (status : Status) : Bool :=
  status.halted || status.errored

/-- The number of the line at the program counter, counted from one. -/
def line (status : Status) : Int :=
  status.pc + 1

def advance (status : Status) : Status :=
  { status with pc := status.pc + 1 }

def jump (status : Status) (target : Int) : Status :=
  { status with pc := target }

def halt (status : Status) : Status :=
  { status with halted := true }

def fail (status : Status) : Status :=
  { status with errored := true }

def countStep (status : Status) : Status :=
  { status with stepCount := status.stepCount + 1 }

def move (status : Status) : Move → Status
  | .advance => status.advance
  | .jump target => status.jump target
  | .halt => status.halt

/-- How the run ended, if it did. Halting is shown in preference to failing. -/
def ending (status : Status) : String :=
  if status.halted then " HALTED" else if status.errored then " ERRORED" else ""

/-- The status on one line; nothing when a number is too long. -/
def text? (status : Status) : Option String := do
  let steps ← Numeral.text? status.stepCount
  let pc ← Numeral.text? status.pc
  pure ("[Step " ++ String.ofList steps ++ "] PC=" ++ String.ofList pc ++ status.ending)

end Status

end RandomAccess
