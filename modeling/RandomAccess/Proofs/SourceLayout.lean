import Mathlib.Data.List.Forall2
import Mathlib.Logic.Relation
import RandomAccess.Proofs.DriverAnswers
import RandomAccess.Proofs.LabelRelocation
import RandomAccess.Proofs.SourceRoundTrip

/-! The layout of a source does not matter. Blanks before and behind a line and a comment at its end leave its
label and its instruction alone. So the edited source loads to the same lines and the same labels, or fails at the
same bad label, and no driver can tell the two machines apart. -/

namespace RandomAccess

namespace Line

/-- One edit of the layout of a line. The blanks of a gap may be carriage returns. -/
inductive Edit : Text → Text → Prop where
  | indent (gap : Gap) (raw : Text) : Edit raw (gap.text ++ raw)
  | pad (gap : Gap) (raw : Text) : Edit raw (raw ++ gap.text)
  | remark {comment : Text} (within : '\n' ∉ comment) (raw : Text) : Edit raw (raw ++ ';' :: comment)

theorem parts_remark (raw comment : Text) : parts (raw ++ ';' :: comment) = parts raw := by
  by_cases marked : ';' ∈ raw
  · obtain ⟨code, rest, rfl, clear⟩ := List.eq_append_cons_of_mem marked
    rw [List.append_assoc, List.cons_append, parts_append_comment clear, parts_append_comment clear]
  · exact parts_append_comment marked comment

theorem Edit.parts {raw edited : Text} (edit : Edit raw edited) : parts edited = parts raw := by
  cases edit with
  | indent gap => exact parts_blank_append gap.blank raw
  | pad gap => exact parts_append_blank gap.blank raw
  | remark within => exact parts_remark raw _

theorem Edit.newline_not_mem {raw edited : Text} (edit : Edit raw edited) (within : '\n' ∉ raw) : '\n' ∉ edited := by
  cases edit with
  | indent gap | pad gap => simp [within, gap.within]
  | remark inside => simp [within, inside]

abbrev Relaid : Text → Text → Prop :=
  Relation.ReflTransGen Edit

theorem Relaid.parts {raw edited : Text} (relaid : Relaid raw edited) : parts edited = parts raw := by
  induction relaid with
  | refl => rfl
  | tail _ edit ih => exact edit.parts.trans ih

theorem Relaid.newline_not_mem {raw edited : Text} (relaid : Relaid raw edited) (within : '\n' ∉ raw) : '\n' ∉ edited := by
  induction relaid with
  | refl => exact within
  | tail _ edit ih => exact edit.newline_not_mem ih

/-- A line without the text that it was read from: its number, its label and its instruction. -/
def bare (line : Line) : Line :=
  { line with source := [] }

theorem Relaid.parse {raw edited : Text} (relaid : Relaid raw edited) (index : Nat) :
    bare <$> Line.parse index edited = bare <$> Line.parse index raw := by
  simp only [parse_eq, parts_dropReturn, relaid.parts]
  cases (Line.parts raw).1.filter (!validLabel ·) <;> rfl

theorem parse_eq_error {index : Nat} {raw : Text} {diagnostic : Diagnostic} (failed : parse index raw = .error diagnostic) :
    diagnostic.kind = .invalidLabel := by
  rw [parse_eq] at failed
  split at failed <;> cases failed
  rfl

end Line

/-- A source whose lines were edited in their layout, each any number of times. -/
def Relaid (source edited : Text) : Prop :=
  ∃ lines, List.Forall₂ Line.Relaid (source.splitOn '\n') lines ∧ edited = ['\n'].intercalate lines

theorem newline_not_mem_of_relaid {raws lines : List Text} (edits : List.Forall₂ Line.Relaid raws lines)
    (within : ∀ raw ∈ raws, '\n' ∉ raw) : ∀ line ∈ lines, '\n' ∉ line := by
  induction edits with
  | nil => simp
  | cons edit _ ih =>
    simp only [List.forall_mem_cons] at within ⊢
    exact ⟨edit.newline_not_mem within.1, ih within.2⟩

theorem Relaid.splitOn {source edited : Text} (relaid : Relaid source edited) :
    List.Forall₂ Line.Relaid (source.splitOn '\n') (edited.splitOn '\n') := by
  obtain ⟨lines, edits, rfl⟩ := relaid
  have within := newline_not_mem_of_relaid edits fun _ => not_mem_of_mem_splitOn
  have nonempty : lines ≠ [] := by
    rintro rfl
    exact List.splitOn_ne_nil '\n' source (List.forall₂_nil_right_iff.mp edits)
  rwa [List.splitOn_intercalate '\n' within nonempty]

namespace Line

theorem parse_all_relaid {raws lines : List Text} (edits : List.Forall₂ Relaid raws lines) (offset : Nat) :
    List.map bare <$> (lines.zipIdx offset).mapM (fun (raw, index) => parse index raw) =
      List.map bare <$> (raws.zipIdx offset).mapM (fun (raw, index) => parse index raw) := by
  induction edits generalizing offset with
  | nil => rfl
  | cons edit _ ih =>
    have split (raw : Text) (raws : List Text) :
        List.map bare <$> ((raw :: raws).zipIdx offset).mapM (fun (raw, index) => parse index raw) =
          (bare <$> parse offset raw) >>= fun line =>
            (List.map bare <$> (raws.zipIdx (offset + 1)).mapM fun (raw, index) => parse index raw) >>= fun rest =>
              pure (line :: rest) := by
      simp only [List.zipIdx_cons, List.mapM_cons, map_bind, map_pure, List.map_cons, bind_map_left]
    rw [split, split, edit.parse, ih]

theorem parse_all_eq_error {raws : List Text} {offset : Nat} {diagnostic : Diagnostic}
    (failed : (raws.zipIdx offset).mapM (fun (raw, index) => parse index raw) = .error diagnostic) :
    diagnostic.kind = .invalidLabel := by
  induction raws generalizing offset with
  | nil => cases failed
  | cons raw raws ih =>
    simp only [List.zipIdx_cons, List.mapM_cons, bind_eq_error] at failed
    rcases failed with first | ⟨_, _, later | ⟨_, _, impossible⟩⟩
    · exact parse_eq_error first
    · exact ih later
    · cases impossible

end Line

namespace Program

def bare (program : Program) : Array Line :=
  program.lines.map Line.bare

theorem load_relaid {source edited : Text} (relaid : Relaid source edited) :
    bare <$> load edited = bare <$> load source := by
  have loaded (parsed : Except Diagnostic (List Line)) :
      bare <$> (parsed >>= fun lines => pure (ofLines lines)) = List.toArray <$> List.map Line.bare <$> parsed := by
    simp only [map_eq_pure_bind, bind_assoc, pure_bind, bare, ofLines, List.map_toArray]
  rw [load, load, loaded, loaded, Line.parse_all_relaid relaid.splitOn]

theorem load_eq_error {source : Text} {diagnostic : Diagnostic} (failed : load source = .error diagnostic) :
    diagnostic.kind = .invalidLabel := by
  rcases bind_eq_error.mp failed with failed | ⟨_, _, impossible⟩
  · exact Line.parse_all_eq_error failed
  · cases impossible

/-- Programs that differ at most in the texts that their lines were read from. -/
structure SameCode (first second : Program) : Prop where
  lines : second.bare = first.bare
  table : second.table = first.table

theorem sameCode_of_bare {first second : Program} (same : second.bare = first.bare) : first.SameCode second := by
  have definitions (program : Program) :
      Definition.ofLines program.lines.toList = Definition.ofLines program.bare.toList := by
    simp only [Definition.ofLines, bare, Array.toList_map, List.zipIdx_map, List.filterMap_map]
    rfl
  refine ⟨same, ?_⟩
  rw [first.table_eq, second.table_eq, definitions, definitions, same]

namespace SameCode

variable {first second : Program} (same : first.SameCode second)
include same

theorem relocates : first.Relocates id second := by
  intro label
  simp only [jump, target?, same.table]
  cases first.table[label]? <;> rfl

theorem text (pc : Int) : (second.line? pc).map Line.text = (first.line? pc).map Line.text := by
  have texts (program : Program) : (program.line? pc).map Line.text =
      if pc < 0 then none else program.bare[pc.toNat]?.map Line.text := by
    simp only [Program.line?, bare, Array.getElem?_map, Option.map_map]
    split <;> rfl
  rw [texts, texts, same.lines]

end SameCode
end Program

theorem Consequence.relocate_id (consequence : Consequence) : consequence.relocate id = consequence := by
  have still : Move.relocate id = id := by
    funext move
    cases move <;> rfl
  simp [relocate, still]

namespace Machine

def withProgram (program : Program) (machine : Machine) : Machine :=
  { machine with program }

section SameCode

variable {first second : Program} (same : first.SameCode second) {machine : Machine} (loaded : machine.program = first)
include same loaded

theorem fetched_withProgram : (machine.withProgram second).fetched = machine.fetched := by
  rw [fetched_eq, fetched_eq, loaded]
  simp only [withProgram, same.text]
  rfl

theorem consequence_withProgram : (machine.withProgram second).consequence = machine.consequence := by
  have relocates : machine.program.Relocates id (machine.withProgram second).program := by
    rw [loaded]
    exact same.relocates
  rw [consequence_relocate relocates (fetched_withProgram same loaded) rfl rfl rfl, Consequence.relocate_id]

theorem step_withProgram : (machine.withProgram second).step = (machine.step.1.withProgram second, machine.step.2) := by
  have status : (machine.withProgram second).status = machine.status := rfl
  have text := fetched_withProgram same loaded
  have consequence := consequence_withProgram same loaded
  apply Prod.ext
  · rw [step_fst_of_same status text consequence rfl, step_workspace, consequence, logged_of_same status text consequence]
    simp only [withProgram, step_limit, step_workspace machine]
  · exact step_snd_of_same status text consequence

end SameCode

theorem unnoticed_withProgram {first second : Program} (same : first.SameCode second) :
    Unnoticed (withProgram second) (fun machine => machine.program = first) where
  finished _ := rfl
  trace _ := rfl
  step _ loaded _ := step_withProgram same loaded

theorem mirrors_withProgram {first second : Program} (same : first.SameCode second) {machine : Machine}
    (loaded : machine.program = first) (calls : List Call) :
    Mirrors (withProgram second) calls machine (machine.withProgram second) := by
  apply (unnoticed_withProgram same).mirrors
  intro state passes
  obtain ⟨count, rfl⟩ := passes.steps
  rw [steps_program, loaded]

/-- A source and one that was edited in its layout fail with the same diagnostic, or load to programs of the same
code. Machines with these programs answer all calls alike and go through the same states, but for the program
itself. -/
theorem layout_irrelevant {source edited : Text} (relaid : Relaid source edited) :
    (∃ diagnostic, Program.load source = .error diagnostic ∧ Program.load edited = .error diagnostic ∧
      diagnostic.kind = .invalidLabel) ∨
    ∃ first second, Program.load source = .ok first ∧ Program.load edited = .ok second ∧ first.SameCode second ∧
      ∀ inputs limit observer calls,
        Mirrors (withProgram second) calls (start first inputs limit observer) (start second inputs limit observer) := by
  have same := Program.load_relaid relaid
  cases loaded : Program.load source with
  | error diagnostic =>
    cases reloaded : Program.load edited with
    | error other =>
      rw [loaded, reloaded] at same
      cases same
      exact .inl ⟨diagnostic, rfl, rfl, Program.load_eq_error loaded⟩
    | ok second =>
      rw [loaded, reloaded] at same
      cases same
  | ok first =>
    cases reloaded : Program.load edited with
    | error other =>
      rw [loaded, reloaded] at same
      cases same
    | ok second =>
      rw [loaded, reloaded] at same
      have code := Program.sameCode_of_bare (Except.ok.inj same)
      refine .inr ⟨first, second, rfl, rfl, code, ?_⟩
      intro inputs limit observer calls
      have started : (start first inputs limit observer).program = first := rfl
      exact mirrors_withProgram code started calls

-- The comment follows the carriage return, and it holds what would be a bad label.
theorem layout_irrelevant_of_comment_after_return :
    Relaid "go:HALT\r".toList "\tgo:HALT\r;a b:\r".toList ∧
      ∃ first second, Program.load "go:HALT\r".toList = .ok first ∧
        Program.load "\tgo:HALT\r;a b:\r".toList = .ok second ∧ first.SameCode second ∧
        ∀ inputs limit observer calls,
          Mirrors (withProgram second) calls (start first inputs limit observer) (start second inputs limit observer) := by
  have tab : Line.Edit "go:HALT\r".toList "\tgo:HALT\r".toList := .indent ⟨['\t'], by decide, by decide⟩ _
  have comment : Line.Edit "\tgo:HALT\r".toList "\tgo:HALT\r;a b:\r".toList :=
    .remark (show '\n' ∉ "a b:\r".toList by decide) _
  have relaid : Relaid "go:HALT\r".toList "\tgo:HALT\r;a b:\r".toList :=
    ⟨["\tgo:HALT\r;a b:\r".toList], .cons (.tail (.single tab) comment) .nil, rfl⟩
  rcases layout_irrelevant relaid with ⟨_, failed, _⟩ | alike
  · cases failed
  · exact ⟨relaid, alike⟩

end Machine
end RandomAccess
