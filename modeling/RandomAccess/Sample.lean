import RandomAccess.Text

/-!
Sample programs, each with inputs to try it on.
-/

namespace RandomAccess

structure Sample where
  source : Text
  inputs : Text
  deriving DecidableEq, Repr

namespace Sample

def ofLines (lines : List String) (inputs : String) : Sample :=
  ⟨lines.flatMap fun line => line.toList ++ ['\n'], inputs.toList⟩

def blank : Sample := ⟨[], []⟩

def factorial : Sample :=
  ofLines
    ["; factorial: reads n into r1, leaves n! in r2 and writes it",
      "; r3 counts down from n, r4 holds 0, r5 holds 1",
      "        READ 1          ; r1 = n",
      "        LOAD =1",
      "        STORE 2         ; r2 = 1",
      "        STORE 5         ; r5 = 1",
      "        LOAD 1",
      "        STORE 3         ; r3 = n",
      "        LOAD =0",
      "        STORE 4         ; r4 = 0",
      "        SJ 3,4,done     ; 0! = 1",
      "loop:   LOAD 2",
      "        MULT 3",
      "        STORE 2         ; r2 = r2 * r3",
      "        SJ 3,5,done     ; r3 = r3 - 1, stop at 0",
      "        JUMP loop",
      "done:   LOAD 2",
      "        WRITE 0",
      "        HALT"]
    "5"

def sum : Sample :=
  ofLines
    ["; sum of 1..n: reads n into r1, leaves the sum in r2 and writes it",
      "        READ 1          ; r1 = n",
      "        LOAD =0",
      "        STORE 2         ; r2 = 0",
      "loop:   LOAD 1",
      "        JGTZ body",
      "        JUMP done",
      "body:   ADD 2",
      "        STORE 2         ; r2 = r2 + r1",
      "        LOAD 1",
      "        SUB =1",
      "        STORE 1         ; r1 = r1 - 1",
      "        JUMP loop",
      "done:   WRITE 2",
      "        HALT"]
    "10"

def reverse : Sample :=
  ofLines
    ["; reads n, then n values into r10.., writes them back in reverse order",
      "; r2 is the pointer used with indirect addressing",
      "        READ 1          ; r1 = n",
      "        LOAD =10",
      "        STORE 2         ; r2 = 10",
      "        LOAD 1",
      "        STORE 3         ; r3 = n",
      "fill:   LOAD 3",
      "        JZERO print",
      "        READ *2         ; mem[r2] = next input",
      "        LOAD 2",
      "        ADD =1",
      "        STORE 2",
      "        LOAD 3",
      "        SUB =1",
      "        STORE 3",
      "        JUMP fill",
      "print:  LOAD 2",
      "        SUB =10",
      "        JZERO end",
      "        LOAD 2",
      "        SUB =1",
      "        STORE 2",
      "        WRITE *2",
      "        JUMP print",
      "end:    HALT"]
    "4, 7, 8, 9, 10"

/-- The sample of a name; any other name is the blank one. -/
def named (name : String) : Sample :=
  if name = "Factorial" then factorial
  else if name = "Sum 1..n" then sum
  else if name = "Reverse (indirect)" then reverse
  else blank

end Sample

end RandomAccess
