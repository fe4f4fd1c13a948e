import RandomAccess.Text

/-!
Text printed line by line. A line that holds a number too long to be written cannot be printed, and
printing stops there.
-/

namespace RandomAccess

structure Printout where
  text : String := ""
  complete : Bool := true
  deriving DecidableEq, Repr

namespace Printout

/-- Print a line, if printing has not stopped. -/
def line (printout : Printout) (line? : Option String) : Printout :=
  match printout with
  | ⟨text, false⟩ => ⟨text, false⟩
  | ⟨text, true⟩ =>
    match line? with
    | some line => ⟨text ++ line ++ "\n", true⟩
    | none => ⟨text, false⟩

def lines (printout : Printout) (lines : List (Option String)) : Printout :=
  lines.foldl line printout

/-- Truth values are printed as words. -/
def flag (value : Bool) : String :=
  if value then "True" else "False"

/-- A ruler of one mark repeated. -/
def ruler (mark : Char) (width : Nat) : String :=
  String.ofList (List.replicate width mark)

end Printout

end RandomAccess
