import RandomAccess.Fault
import Std.Data.TreeMap

/-!
A program keeps one record for each line of its source, so the program counter is a line index. A line
is `label: instruction ; comment`, each part optional. A label stands for the index of its line, and of
two lines with one label the later one counts. `target?_eq` says so of the table that jumps look into.
-/

namespace RandomAccess

/-- A line of a program: its number, counted from one, the source text, the label if it has one, and
the instruction text without label and comment. -/
structure Line where
  number : Nat
  source : Text
  label? : Option Text
  text : Text
  deriving DecidableEq, Repr

namespace Line

/-- A carriage return at the end of a line is part of the line break. -/
def dropReturn (raw : Text) : Text :=
  if raw.getLast? = some '\r' then raw.dropLast else raw

/-- The part of a line that is neither indentation nor comment. -/
def code (source : Text) : Text :=
  Text.before ';' (Text.trimLeft source)

/-- The label in front of the first colon, and the rest with blanks in place of later colons. -/
def splitLabel (code : Text) : Option Text × Text :=
  match code.splitOn ':' with
  | label :: next :: rest => (some label, [' '].intercalate (next :: rest))
  | _ => (none, code)

/-- A label is one word, as far as spaces and tabs go. -/
def validLabel (label : Text) : Bool :=
  !(label.contains ' ' || label.contains '\t')

/-- Read a line at a zero-based index. -/
def parse (index : Nat) (raw : Text) : Except Diagnostic Line :=
  let source := dropReturn raw
  let (label?, rest) := splitLabel (code source)
  match label?.filter (!validLabel ·) with
  | some label => .error ((Fault.invalidLabel label).atLine (index + 1))
  | none => .ok ⟨index + 1, source, label?, Text.trim rest⟩

end Line

/-- A label and the index of the line that it stands at. -/
abbrev Definition := Text × Nat

namespace Definition

/-- The labels of some lines, in the order of the lines. -/
def ofLines (lines : List Line) : List Definition :=
  lines.zipIdx.filterMap fun (line, index) => line.label?.map (·, index)

/-- The table of some definitions; a later one replaces an earlier one of the same label. -/
def table (definitions : List Definition) : Std.TreeMap Text Nat :=
  definitions.foldl (fun table definition => table.insert definition.1 definition.2) ∅

theorem getElem?_foldl_insert (definitions : List Definition) (table : Std.TreeMap Text Nat) (label : Text) :
    (definitions.foldl (fun table definition => table.insert definition.1 definition.2) table)[label]? =
      (definitions.reverse.lookup label).or table[label]? := by
  induction definitions generalizing table with
  | nil => simp
  | cons definition rest ih =>
    rw [List.foldl_cons, ih, List.reverse_cons, List.lookup_append, Option.or_assoc]
    obtain ⟨defined, index⟩ := definition
    rw [Std.TreeMap.getElem?_insert]
    by_cases same : label = defined
    · simp [same]
    · simp [List.lookup_cons, beq_eq_false_iff_ne.2 same, Ne.symm same]

/-- A look-up in the table finds the last definition of a label. -/
theorem getElem?_table (definitions : List Definition) (label : Text) :
    (table definitions)[label]? = definitions.reverse.lookup label := by
  simp [table, getElem?_foldl_insert]

end Definition

/-- The lines of a program, and the table of their labels. -/
structure Program where
  lines : Array Line
  table : Std.TreeMap Text Nat
  table_eq : table = Definition.table (Definition.ofLines lines.toList)

namespace Program

/-- The lines determine the program. -/
@[ext]
theorem ext {first second : Program} (same : first.lines = second.lines) : first = second := by
  cases first with
  | mk lines table table_eq =>
    cases second with
    | mk _ _ other_eq =>
      subst same table_eq other_eq
      rfl

def ofLines (lines : List Line) : Program :=
  ⟨lines.toArray, Definition.table (Definition.ofLines lines), rfl⟩

/-- Read the lines of a source; the first bad one is reported. -/
def load (source : Text) : Except Diagnostic Program := do
  let lines ← (source.splitOn '\n').zipIdx.mapM fun (raw, index) => Line.parse index raw
  pure (ofLines lines)

def definitions (program : Program) : List Definition :=
  Definition.ofLines program.lines.toList

/-- The index that a label stands for. -/
def target? (program : Program) (label : Text) : Option Nat :=
  program.table[label]?

theorem target?_eq (program : Program) (label : Text) :
    program.target? label = program.definitions.reverse.lookup label := by
  rw [target?, program.table_eq, Definition.getElem?_table, definitions]

/-- The definitions that no later one replaces, in ascending order of index. -/
def labels (program : Program) : List Definition :=
  program.definitions.filter fun definition => program.target? definition.1 = some definition.2

def size (program : Program) : Nat :=
  program.lines.size

/-- The line at a program counter. -/
def line? (program : Program) (pc : Int) : Option Line :=
  if pc < 0 then none else program.lines[pc.toNat]?

end Program

end RandomAccess
