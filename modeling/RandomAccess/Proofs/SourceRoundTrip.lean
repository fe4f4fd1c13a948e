import Mathlib.Data.List.Basic
import RandomAccess.Proofs.LineParts
import RandomAccess.Proofs.LoadedLines
import RandomAccess.Source.Statement

/-! Writing a program and loading it. A listing is a list of lines in parts, each with a layout: the blanks
between its parts, and whether a carriage return ends it. A listing always loads, every line keeps its keyword and
operands whatever its layout, and a label leads to the last line written with it. -/

namespace RandomAccess

/-- Blanks within a line. -/
structure Gap where
  text : Text
  blank : Text.Blank text
  within : '\n' ∉ text

theorem Gap.not_mem (gap : Gap) {mark : Char} (visible : Text.isBlank mark = false) : mark ∉ gap.text :=
  Line.not_mem_of_blank gap.blank visible

structure Layout where
  indent : Gap
  afterLabel : Gap
  afterKeyword : Gap
  atEnd : Gap
  returned : Bool
  apart : afterKeyword.text ≠ []

def Layout.ending (layout : Layout) : Text :=
  if layout.returned then ['\r'] else []

theorem Layout.mem_ending {layout : Layout} {c : Char} (member : c ∈ layout.ending) : c = '\r' := by
  unfold ending at member
  split at member
  next => exact List.mem_singleton.mp member
  next => cases member

def Text.Solid (text : Text) : Prop :=
  ∀ c ∈ text, isBlank c = false ∧ c ≠ ':' ∧ c ≠ ';'

instance (text : Text) : Decidable (Text.Solid text) :=
  List.decidableBAll (fun c => Text.isBlank c = false ∧ c ≠ ':' ∧ c ≠ ';') text

namespace Statement

/-- Statements that can be written. One empty operand would look like none. -/
structure Writable (statement : Statement) : Prop where
  keyword_nonempty : statement.keyword ≠ []
  keyword_solid : Text.Solid statement.keyword
  operand_solid : ∀ operand ∈ statement.operands, Text.Solid operand
  operand_single : ∀ operand ∈ statement.operands, ',' ∉ operand
  operands_shown : statement.operands ≠ [[]]

def listed (statement : Statement) : Text :=
  [','].intercalate statement.operands

def arguments (gap : Gap) (statement : Statement) : Text :=
  match statement.operands with
  | [] => []
  | _ :: _ => gap.text ++ statement.listed

def write (gap : Gap) (statement : Statement) : Text :=
  statement.keyword ++ statement.arguments gap

end Statement

/-- Labels that can be written. Blanks other than spaces, tabs and newlines may stand in them, but not in front. -/
structure Text.Label (label : Text) : Prop where
  unmarked : ∀ mark ∈ [' ', '\t', '\n', ':', ';'], mark ∉ label
  first : ∀ c, label.head? = some c → isBlank c = false

/-- The parts of a line to be written; any of them may be missing. -/
structure SourceLine where
  label? : Option Text
  statement? : Option Statement
  comment? : Option Text
  label_writable : ∀ label ∈ label?, Text.Label label
  statement_writable : ∀ statement ∈ statement?, statement.Writable
  comment_within : ∀ comment ∈ comment?, '\n' ∉ comment

namespace SourceLine

/-- A line without an instruction has an empty keyword and no operands. -/
def statement (line : SourceLine) : Statement :=
  line.statement?.getD ⟨[], []⟩

def front (layout : Layout) (line : SourceLine) : Text :=
  match line.label? with
  | none => []
  | some label => label ++ ':' :: layout.afterLabel.text

def body (layout : Layout) (line : SourceLine) : Text :=
  match line.statement? with
  | none => []
  | some statement => statement.write layout.afterKeyword

def back (layout : Layout) (line : SourceLine) : Text :=
  line.comment?.elim [] (';' :: ·) ++ layout.ending

def write (layout : Layout) (line : SourceLine) : Text :=
  layout.indent.text ++ (line.front layout ++ line.body layout) ++ layout.atEnd.text ++ line.back layout

end SourceLine

abbrev Listing := List (SourceLine × Layout)

def Listing.write (listing : Listing) : Text :=
  ['\n'].intercalate (listing.map fun (line, layout) => line.write layout)

def Listing.carriers (listing : Listing) (label : Text) : Set Nat :=
  {index | ∃ line layout, listing[index]? = some (line, layout) ∧ line.label? = some label}

theorem mem_intercalate {mark c : Char} {texts : List Text} (member : c ∈ [mark].intercalate texts) :
    c = mark ∨ ∃ text ∈ texts, c ∈ text := by
  induction texts with
  | nil => simp at member
  | cons text texts ih =>
    cases texts with
    | nil =>
      rw [List.intercalate_singleton] at member
      exact .inr ⟨text, List.mem_singleton_self text, member⟩
    | cons next rest =>
      rw [List.intercalate_cons_cons, List.mem_append, List.mem_append, List.mem_singleton] at member
      rcases member with (first | same) | later
      · exact .inr ⟨text, List.mem_cons_self, first⟩
      · exact .inl same
      · rcases ih later with same | ⟨other, among, member⟩
        · exact .inl same
        · exact .inr ⟨other, List.mem_cons_of_mem text among, member⟩

theorem isInfix_intercalate (mark : Char) {text : Text} {texts : List Text} (among : text ∈ texts) :
    text <:+: [mark].intercalate texts := by
  induction texts with
  | nil => cases among
  | cons first texts ih =>
    cases texts with
    | nil => exact ⟨[], [], by simp [List.mem_singleton.mp among]⟩
    | cons next rest =>
      rw [List.intercalate_cons_cons]
      rcases List.mem_cons.mp among with same | later
      · rw [same, List.append_assoc]
        exact (List.prefix_append first _).isInfix
      · exact (ih later).trans (List.suffix_append (first ++ [mark]) _).isInfix

namespace Text.Solid

variable {text rest : Text}

theorem not_mem (solid : Solid text) {mark : Char} (apart : isBlank mark = true ∨ mark = ':' ∨ mark = ';') :
    mark ∉ text := by
  intro member
  obtain ⟨visible, plain, code⟩ := solid mark member
  rcases apart with blank | colon | semicolon
  · rw [blank] at visible
    cases visible
  · exact plain colon
  · exact code semicolon

theorem takeWhile_append (solid : Solid text) (ends : ∀ c, rest.head? = some c → isBlank c = true) :
    (text ++ rest).takeWhile (!isBlank ·) = text :=
  takeWhile_run (fun c member => by simp [(solid c member).1]) (fun c first => by simp [ends c first])

theorem dropWhile_append (solid : Solid text) (ends : ∀ c, rest.head? = some c → isBlank c = true) :
    (text ++ rest).dropWhile (!isBlank ·) = rest :=
  dropWhile_run (fun c member => by simp [(solid c member).1]) (fun c first => by simp [ends c first])

theorem squeeze_eq (solid : Solid text) : squeeze text = text :=
  squeeze_eq_self_iff.mpr fun c member => (solid c member).1

end Text.Solid

theorem Text.Blank.squeeze_append {gap : Text} (blank : Blank gap) (text : Text) : squeeze (gap ++ text) = squeeze text := by
  rw [Text.squeeze_append, blank.squeeze_eq, List.nil_append]

namespace Statement

section Operands

variable {operands : List Text} (single : ∀ operand ∈ operands, ',' ∉ operand) (shown : operands ≠ [[]])
include single shown

theorem intercalate_nonempty (nonempty : operands ≠ []) : [','].intercalate operands ≠ [] := by
  -- An empty text would be split into one empty operand.
  intro empty
  have split := List.splitOn_intercalate ',' single nonempty
  rw [empty] at split
  exact shown split.symm

theorem operandsOf_intercalate : operandsOf ([','].intercalate operands) = operands := by
  by_cases empty : operands = []
  · rw [empty]
    rfl
  · rw [operandsOf, if_neg (by simpa using intercalate_nonempty single shown empty),
      List.splitOn_intercalate ',' single empty]

end Operands

variable {statement : Statement} {gap : Gap}

namespace Writable

theorem listed_solid (writable : statement.Writable) : Text.Solid statement.listed := by
  intro c member
  rcases mem_intercalate member with rfl | ⟨operand, among, member⟩
  · decide
  · exact writable.operand_solid operand among c member

theorem listed_nonempty (writable : statement.Writable) (nonempty : statement.operands ≠ []) : statement.listed ≠ [] :=
  intercalate_nonempty writable.operand_single writable.operands_shown nonempty

theorem operandsOf_listed (writable : statement.Writable) : operandsOf statement.listed = statement.operands :=
  operandsOf_intercalate writable.operand_single writable.operands_shown

theorem squeeze_arguments (writable : statement.Writable) : Text.squeeze (statement.arguments gap) = statement.listed := by
  unfold arguments
  split
  next empty =>
    rw [listed, empty]
    rfl
  next => rw [gap.blank.squeeze_append, writable.listed_solid.squeeze_eq]

theorem write_head (writable : statement.Writable) {c : Char} (first : (statement.write gap).head? = some c) :
    Text.isBlank c = false := by
  obtain ⟨d, rest, keyword⟩ := List.exists_cons_of_ne_nil writable.keyword_nonempty
  rw [write, keyword] at first
  cases first
  apply (writable.keyword_solid c _).1
  rw [keyword]
  exact List.mem_cons_self

theorem write_last (writable : statement.Writable) {c : Char} (last : (statement.write gap).getLast? = some c) :
    Text.isBlank c = false := by
  unfold write arguments at last
  split at last
  next =>
    rw [List.append_nil] at last
    exact (writable.keyword_solid c (List.mem_of_getLast? last)).1
  next _ _ held =>
    have shown : statement.listed ≠ [] := writable.listed_nonempty (by simp [held])
    rw [← List.append_assoc, List.getLast?_append_of_ne_nil _ shown] at last
    exact (writable.listed_solid c (List.mem_of_getLast? last)).1

theorem trim_write (writable : statement.Writable) : Text.trim (statement.write gap) = statement.write gap :=
  Text.trim_eq_self (fun _ => writable.write_head) (fun _ => writable.write_last)

theorem not_mem_write (writable : statement.Writable) {mark : Char} (outside : mark ∉ gap.text)
    (apart : Text.isBlank mark = true ∨ mark = ':' ∨ mark = ';') : mark ∉ statement.write gap := by
  have others : mark ∉ statement.arguments gap := by
    unfold arguments
    split
    next => exact List.not_mem_nil
    next => simp [outside, writable.listed_solid.not_mem apart]
  simp [write, others, writable.keyword_solid.not_mem apart]

end Writable

theorem arguments_head (apart : gap.text ≠ []) {c : Char} (first : (statement.arguments gap).head? = some c) :
    Text.isBlank c = true := by
  obtain ⟨d, rest, text⟩ := List.exists_cons_of_ne_nil apart
  unfold arguments at first
  split at first
  next => cases first
  next =>
    rw [text] at first
    cases first
    apply gap.blank c
    rw [text]
    exact List.mem_cons_self

theorem ofText_write (writable : statement.Writable) (apart : gap.text ≠ []) :
    ofText (statement.write gap) = statement := by
  have code : ';' ∉ statement.write gap :=
    writable.not_mem_write (gap.not_mem (by decide)) (by decide)
  have ends : ∀ c, (statement.arguments gap).head? = some c → Text.isBlank c = true := fun _ => arguments_head apart
  simp only [ofText, Text.before_eq_self code, writable.trim_write]
  rw [write, writable.keyword_solid.takeWhile_append ends, writable.keyword_solid.dropWhile_append ends,
    writable.squeeze_arguments, writable.operandsOf_listed]

end Statement

namespace SourceLine

variable {line : SourceLine} {layout : Layout}

theorem trim_body : Text.trim (line.body layout) = line.body layout := by
  unfold body
  split
  next => rfl
  next statement held => exact (line.statement_writable statement held).trim_write

theorem not_mem_body {mark : Char} (outside : mark ∉ layout.afterKeyword.text)
    (apart : Text.isBlank mark = true ∨ mark = ':' ∨ mark = ';') : mark ∉ line.body layout := by
  unfold body
  split
  next => exact List.not_mem_nil
  next statement held => exact (line.statement_writable statement held).not_mem_write outside apart

theorem ofText_body : Statement.ofText (line.body layout) = line.statement := by
  unfold body statement
  split
  next missing =>
    rw [missing]
    rfl
  next statement held =>
    rw [held]
    exact Statement.ofText_write (line.statement_writable statement held) layout.apart

theorem not_mem_front {mark : Char} (outside : mark ∉ layout.afterLabel.text) (apart : mark ∈ ['\n', ';']) :
    mark ∉ line.front layout := by
  unfold front
  split
  next => exact List.not_mem_nil
  next label named =>
    have unmarked : mark ∉ label := (line.label_writable label named).unmarked mark (by grind)
    have other : mark ≠ ':' := by grind
    simp [unmarked, outside, other]

theorem parts_back {text : Text} (code : ';' ∉ text) : Line.parts (text ++ line.back layout) = Line.parts text := by
  unfold back
  cases line.comment? with
  | none =>
    apply Line.parts_append_blank
    intro c member
    rw [Layout.mem_ending member]
    decide
  | some comment => exact Line.parts_append_comment code _

theorem parts_front : Line.parts (line.front layout ++ line.body layout) = (line.label?, line.body layout) := by
  have code : ';' ∉ line.body layout := not_mem_body (layout.afterKeyword.not_mem (by decide)) (by decide)
  have plain : ':' ∉ line.body layout := not_mem_body (layout.afterKeyword.not_mem (by decide)) (by decide)
  unfold front
  split
  next missing => rw [List.nil_append, Line.parts_unlabelled code plain, trim_body, missing]
  next label named =>
    have writable := line.label_writable label named
    have code : ';' ∉ label ++ (layout.afterLabel.text ++ line.body layout) := by
      simp [code, writable.unmarked, layout.afterLabel.not_mem (by decide : Text.isBlank ';' = false)]
    have plain : ':' ∉ label ++ (layout.afterLabel.text ++ line.body layout) := by
      simp [plain, writable.unmarked, layout.afterLabel.not_mem (by decide : Text.isBlank ':' = false)]
    rw [List.append_assoc, List.cons_append, Line.parts_labelled writable.first code plain,
      Text.trim_blank_append layout.afterLabel.blank, trim_body, named]

theorem parts_write : Line.parts (line.write layout) = (line.label?, line.body layout) := by
  -- Only the comment may hold a semicolon, so the first one is where it begins.
  have front : ';' ∉ line.front layout := not_mem_front (layout.afterLabel.not_mem (by decide)) (by decide)
  have body : ';' ∉ line.body layout := not_mem_body (layout.afterKeyword.not_mem (by decide)) (by decide)
  have indent : ';' ∉ layout.indent.text := layout.indent.not_mem (by decide)
  have atEnd : ';' ∉ layout.atEnd.text := layout.atEnd.not_mem (by decide)
  have code : ';' ∉ layout.indent.text ++ (line.front layout ++ line.body layout) ++ layout.atEnd.text := by
    simp [front, body, indent, atEnd]
  rw [write, parts_back code, Line.parts_append_blank layout.atEnd.blank, Line.parts_blank_append layout.indent.blank,
    parts_front]

theorem newline_not_mem_write : '\n' ∉ line.write layout := by
  have front : '\n' ∉ line.front layout := not_mem_front layout.afterLabel.within (by decide)
  have body : '\n' ∉ line.body layout := not_mem_body layout.afterKeyword.within (by decide)
  have ending : '\n' ∉ layout.ending := fun member => absurd (Layout.mem_ending member) (by decide)
  have back : '\n' ∉ line.back layout := by
    unfold SourceLine.back
    cases held : line.comment? with
    | none => simpa using ending
    | some comment => simp [line.comment_within comment held, ending]
  simp [write, front, body, back, layout.indent.within, layout.atEnd.within]

def loaded (layout : Layout) (line : SourceLine) (index : Nat) : Line :=
  ⟨index + 1, Line.dropReturn (line.write layout), line.label?, line.body layout⟩

theorem parse_write (index : Nat) : Line.parse index (line.write layout) = .ok (line.loaded layout index) := by
  have valid : line.label?.filter (!Line.validLabel ·) = none := by
    rw [Option.filter_eq_none_iff]
    intro label named
    have unmarked := (line.label_writable label named).unmarked
    simp [Line.validLabel, unmarked]
  rw [Line.parse_eq, Line.parts_dropReturn, parts_write, valid]
  rfl

end SourceLine

namespace Listing

def program (listing : Listing) : Program :=
  Program.ofLines (listing.mapIdx fun index (line, layout) => line.loaded layout index)

theorem load_write {listing : Listing} (nonempty : listing ≠ []) : Program.load listing.write = .ok listing.program := by
  have split : listing.write.splitOn '\n' = listing.map fun (line, layout) => line.write layout := by
    apply List.splitOn_intercalate
    · intro text member
      obtain ⟨written, _, rfl⟩ := List.mem_map.mp member
      exact SourceLine.newline_not_mem_write
    · simpa using nonempty
  rw [Program.load_eq_ok_iff, split]
  refine ⟨by simp [program, Program.size, Program.ofLines], ?_⟩
  intro index raw found
  rw [List.getElem?_map, Option.map_eq_some_iff] at found
  obtain ⟨⟨line, layout⟩, held, rfl⟩ := found
  exact ⟨line.loaded layout index, by simp [program, Program.ofLines, held], SourceLine.parse_write index⟩

theorem carriers_program (listing : Listing) (label : Text) : listing.program.carriers label = listing.carriers label := by
  ext index
  change (listing.mapIdx _)[index]?.bind _ = some label ↔ _
  rw [List.getElem?_mapIdx, Option.bind_map, Option.bind_eq_some_iff]
  simp only [carriers, Set.mem_ofPred_eq, Prod.exists]
  rfl

/-- What a program has of a listing. The empty source counts as one line. -/
structure Holds (listing : Listing) (program : Program) : Prop where
  size : program.size = max 1 listing.length
  line : ∀ index line layout, listing[index]? = some (line, layout) →
    ∃ loaded, program.lines[index]? = some loaded ∧ loaded.number = index + 1 ∧
      Statement.ofText loaded.text = line.statement
  label : ∀ label index, program.target? label = some index ↔ IsGreatest (listing.carriers label) index
  unknown : ∀ label, program.target? label = none ↔ listing.carriers label = ∅

theorem holds_of_carriers {listing : Listing} {program : Program} (size : program.size = max 1 listing.length)
    (line : ∀ index line layout, listing[index]? = some (line, layout) →
      ∃ loaded, program.lines[index]? = some loaded ∧ loaded.number = index + 1 ∧
        Statement.ofText loaded.text = line.statement)
    (same : ∀ label, program.carriers label = listing.carriers label) : listing.Holds program := by
  refine ⟨size, line, ?_, ?_⟩
  · intro label index
    rw [Program.target?_eq_some_iff, same]
  · intro label
    rw [Program.target?_eq_none_iff, same]

theorem holds_program {listing : Listing} (nonempty : listing ≠ []) : listing.Holds listing.program := by
  apply holds_of_carriers
  · have long : 0 < listing.length := List.length_pos_iff.mpr nonempty
    simp only [program, Program.size, Program.ofLines, List.size_toArray, List.length_mapIdx]
    omega
  · intro index line layout held
    exact ⟨line.loaded layout index, by simp [program, Program.ofLines, held], rfl, SourceLine.ofText_body⟩
  · exact listing.carriers_program

theorem holds_blank : Holds [] (Program.ofLines [⟨1, [], none, []⟩]) := by
  apply holds_of_carriers
  · rfl
  · intro index line layout held
    cases held
  · intro label
    ext index
    cases index <;> simp [Program.carriers, Definition.carriers, Program.ofLines, carriers]

/-- Every listing loads, and what is loaded has the instructions and the labels that were written, and no others. -/
theorem load_write_holds (listing : Listing) : ∃ program, Program.load listing.write = .ok program ∧ listing.Holds program := by
  cases listing with
  -- Splitting no text gives one line, so a listing without lines is not a case of the others.
  | nil => exact ⟨_, rfl, holds_blank⟩
  | cons written rest => exact ⟨_, load_write (List.cons_ne_nil written rest), holds_program (List.cons_ne_nil written rest)⟩

-- An empty operand between two others, a comment with marks in it, and the same label once more.
theorem load_write_holds_of_repeated_label :
    ∃ listing : Listing, listing.write = "\tgo: SJ 1,,go ; a:;\r\ngo: ".toList ∧
      ∃ program, Program.load listing.write = .ok program ∧ listing.Holds program := by
  have label : ∀ label ∈ some ['g', 'o'], Text.Label label := by
    rintro _ ⟨⟩
    refine ⟨by simp, ?_⟩
    rintro _ ⟨⟩
    decide
  have statement : ∀ statement ∈ some (Statement.mk ['S', 'J'] [['1'], [], ['g', 'o']]), statement.Writable := by
    rintro _ ⟨⟩
    constructor <;> decide
  have comment : ∀ comment ∈ some [' ', 'a', ':', ';'], '\n' ∉ comment := by
    rintro _ ⟨⟩
    decide
  let space : Gap := ⟨[' '], by decide, by decide⟩
  let nothing : Gap := ⟨[], by decide, by decide⟩
  let tab : Gap := ⟨['\t'], by decide, by decide⟩
  refine ⟨[(⟨_, _, _, label, statement, comment⟩, ⟨tab, space, space, space, true, by decide⟩),
    (⟨_, none, none, label, nofun, nofun⟩, ⟨nothing, space, space, nothing, false, by decide⟩)], rfl, load_write_holds _⟩

end Listing
end RandomAccess
