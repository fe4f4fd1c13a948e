import Mathlib.Data.List.Forall2
import RandomAccess.Proofs.InsertedLines

/-! What loading a source comes to, whatever the source is. Every line falls apart into indentation, code and comment,
and the label that it carries stands before the first colon of its code. Loading fails at the first line whose label has a
space or a tab in it. If there is no such line, all lines are kept in order, and a label leads to the last line that
carries it. -/

namespace RandomAccess

theorem length_splitOn (mark : Char) (text : Text) : (text.splitOn mark).length = text.count mark + 1 := by
  induction text with
  | nil => rfl
  | cons c rest ih =>
    rw [List.splitOn_cons_eq_if_modifyHead, List.count_cons]
    split
    · rw [List.length_cons, ih]
    · rw [List.length_modifyHead, ih]

/-- A text that can be an instruction: no mark ends it, and there are no blanks at its edges. -/
structure Text.Tidy (text : Text) : Prop where
  unmarked : ∀ mark ∈ ['\n', ':', ';'], mark ∉ text
  first : ∀ c, text.head? = some c → isBlank c = false
  last : ∀ c, text.getLast? = some c → isBlank c = false

namespace Line

/-- The source of a line is the line without a carriage return at its end. -/
def Ended (raw source : Text) : Prop :=
  raw = source ++ ['\r'] ∨ raw = source ∧ source.getLast? ≠ some '\r'

/-- A line taken apart. The indentation goes on as long as there are blanks, and the first semicolon begins the
comment. -/
structure Anatomy (raw : Text) where
  source : Text
  indent : Text
  code : Text
  comment : Text
  ended : Ended raw source
  whole : source = indent ++ (code ++ comment)
  indent_blank : Text.Blank indent
  indent_ends : ∀ c, (code ++ comment).head? = some c → Text.isBlank c = false
  code_unmarked : ';' ∉ code
  comment_begins : ∀ c, comment.head? = some c → c = ';'

/-- A line carries the label that stands before the first colon of its code. -/
def Carries (raw label : Text) : Prop :=
  ∃ (anatomy : Anatomy raw) (rest : Text), anatomy.code = label ++ ':' :: rest ∧ ':' ∉ label

/-- A line carries a label with a space or a tab in it. -/
def Misnamed (raw : Text) : Prop :=
  ∃ label, Carries raw label ∧ (' ' ∈ label ∨ '\t' ∈ label)

section Anatomy

variable {raw source label : Text}

theorem ended_iff : Ended raw source ↔ dropReturn raw = source := by
  rw [dropReturn]
  constructor
  · intro ended
    rcases ended with same | ⟨same, other⟩
    · rw [same, if_pos List.getLast?_concat, List.dropLast_concat]
    · rw [same, if_neg other]
  · intro dropped
    split at dropped
    next returned =>
      obtain ⟨front, same⟩ := List.getLast?_eq_some_iff.mp returned
      rw [same, List.dropLast_concat] at dropped
      rw [Ended, same, dropped]
      exact .inl rfl
    next other =>
      rw [dropped] at other
      exact .inr ⟨dropped, other⟩

theorem code_unmarked (source : Text) : ';' ∉ code source :=
  Text.not_mem_before ';' (Text.trimLeft source)

theorem mem_of_mem_code {c : Char} (member : c ∈ code source) : c ∈ source :=
  Text.mem_of_mem_trimLeft (List.takeWhile_subset _ member)

/-- Every line can be taken apart. -/
def anatomy (raw : Text) : Anatomy raw where
  source := dropReturn raw
  indent := (dropReturn raw).takeWhile Text.isBlank
  code := code (dropReturn raw)
  comment := (Text.trimLeft (dropReturn raw)).dropWhile (· != ';')
  ended := ended_iff.mpr rfl
  whole := by
    rw [code, Text.before, List.takeWhile_append_dropWhile]
    exact List.takeWhile_append_dropWhile.symm
  indent_blank := List.all_eq_true.mp List.all_takeWhile
  indent_ends := by
    rw [code, Text.before, List.takeWhile_append_dropWhile]
    intro c first
    exact Text.isBlank_head?_trimLeft first
  code_unmarked := code_unmarked (dropReturn raw)
  comment_begins := by
    intro c first
    have stopped := List.head?_dropWhile_not (· != ';') (Text.trimLeft (dropReturn raw))
    simpa only [first, bne_eq_false_iff_eq] using stopped

/-- There is one way only to take a line apart, as far as its code goes. -/
theorem Anatomy.code_eq (anatomy : Anatomy raw) : anatomy.code = Line.code (dropReturn raw) := by
  rw [ended_iff.mp anatomy.ended, Line.code, anatomy.whole, Text.trimLeft_blank_append anatomy.indent_blank,
    Text.trimLeft_eq_self anatomy.indent_ends]
  cases comment : anatomy.comment with
  | nil => rw [List.append_nil, Text.before_eq_self anatomy.code_unmarked]
  | cons c rest =>
    obtain rfl : c = ';' := anatomy.comment_begins c (by rw [comment]; rfl)
    rw [Text.before_append_mark anatomy.code_unmarked]

theorem splitLabel_fst_eq_some_iff {code : Text} :
    (splitLabel code).1 = some label ↔ ∃ rest, code = label ++ ':' :: rest ∧ ':' ∉ label := by
  constructor
  · intro named
    by_cases marked : ':' ∈ code
    · obtain ⟨front, rest, same, unmarked⟩ := List.eq_append_cons_of_mem marked
      rw [same, splitLabel_append unmarked] at named
      obtain rfl : front = label := Option.some.inj named
      exact ⟨rest, same, unmarked⟩
    · rw [splitLabel_of_not_mem marked] at named
      cases named
  · intro split
    obtain ⟨rest, same, unmarked⟩ := split
    rw [same, splitLabel_append unmarked]

/-- The label that a line carries is the one that loading finds. -/
theorem carries_iff : Carries raw label ↔ (parts raw).1 = some label := by
  rw [← parts_dropReturn]
  constructor
  · intro carries
    obtain ⟨anatomy, rest, same, unmarked⟩ := carries
    rw [anatomy.code_eq] at same
    exact splitLabel_fst_eq_some_iff.mpr ⟨rest, same, unmarked⟩
  · intro named
    exact ⟨anatomy raw, splitLabel_fst_eq_some_iff.mp named⟩

theorem Carries.unmarked (carries : Carries raw label) : ';' ∉ label := by
  obtain ⟨anatomy, rest, same, _⟩ := carries
  intro member
  apply anatomy.code_unmarked
  rw [same]
  exact List.mem_append_left _ member

theorem validLabel_eq_false_iff : validLabel label = false ↔ ' ' ∈ label ∨ '\t' ∈ label := by
  simp only [validLabel, Bool.not_eq_eq_eq_not, Bool.not_false, Bool.or_eq_true, List.contains_iff_mem]

theorem readable_iff : Readable raw ↔ ¬ Misnamed raw := by
  simp only [Readable, Misnamed, carries_iff, ← validLabel_eq_false_iff, not_exists, not_and, Bool.not_eq_false]

theorem parse_eq_error_iff {index : Nat} {diagnostic : Diagnostic} :
    parse index raw = .error diagnostic ↔
      ∃ label, Carries raw label ∧ (' ' ∈ label ∨ '\t' ∈ label) ∧
        diagnostic = (Fault.invalidLabel label).atLine (index + 1) := by
  simp only [parse_eq, parts_dropReturn, carries_iff, ← validLabel_eq_false_iff]
  cases (parts raw).1 with
  | none => simp
  | some label => cases valid : validLabel label <;> simp [Option.filter_some, valid, @eq_comm _ diagnostic]

end Anatomy

section Text

variable {code : Text} {c : Char}

/-- What follows a label has no colons left in it. -/
theorem mem_splitLabel_snd (member : c ∈ (splitLabel code).2) : c ≠ ':' ∧ (c = ' ' ∨ c ∈ code) := by
  by_cases marked : ':' ∈ code
  · obtain ⟨label, rest, same, unmarked⟩ := List.eq_append_cons_of_mem marked
    rw [same, splitLabel_append unmarked] at member
    obtain ⟨d, among, replaced⟩ := List.mem_map.mp member
    split at replaced
    next => exact ⟨by rw [← replaced]; decide, .inl replaced.symm⟩
    next other =>
      rw [replaced] at other among
      refine ⟨other, .inr ?_⟩
      rw [same]
      exact List.mem_append_right label (List.mem_cons_of_mem ':' among)
  · rw [splitLabel_of_not_mem marked] at member
    refine ⟨?_, .inr member⟩
    intro colon
    rw [colon] at member
    exact marked member

theorem parts_tidy {raw : Text} (within : '\n' ∉ raw) : Text.Tidy (parts raw).2 := by
  have kept {mark : Char} (member : mark ∈ (parts raw).2) : mark ≠ ':' ∧ (mark = ' ' ∨ mark ∈ Line.code raw) :=
    mem_splitLabel_snd (Text.mem_of_mem_trim member)
  refine ⟨?_, fun _ => Text.isBlank_head?_trim, fun _ => Text.isBlank_getLast?_trim⟩
  intro mark among member
  obtain ⟨other, spaced | inside⟩ := kept member
  · rw [spaced] at among
    simp at among
  · simp only [List.mem_cons, List.not_mem_nil, or_false] at among
    rcases among with newline | colon | semicolon
    · rw [newline] at inside
      exact within (mem_of_mem_code inside)
    · exact other colon
    · rw [semicolon] at inside
      exact code_unmarked raw inside

end Text

/-- Reading lines in order stops at the first that cannot be read. -/
theorem parse_all_first {raws : List Text} {offset : Nat} {diagnostic : Diagnostic}
    (failed : (raws.zipIdx offset).mapM (fun (raw, index) => parse index raw) = .error diagnostic) :
    ∃ index raw, raws[index]? = some raw ∧ parse (offset + index) raw = .error diagnostic ∧
      ∀ earlier other, raws[earlier]? = some other → Misnamed other → index ≤ earlier := by
  induction raws generalizing offset with
  | nil => cases failed
  | cons raw raws ih =>
    simp only [List.zipIdx_cons, List.mapM_cons, bind_eq_error] at failed
    rcases failed with first | ⟨line, read, later | ⟨_, _, impossible⟩⟩
    · exact ⟨0, raw, rfl, first, fun _ _ _ _ => Nat.zero_le _⟩
    · obtain ⟨index, found, held, refused, least⟩ := ih later
      refine ⟨index + 1, found, held, by rwa [Nat.add_right_comm] at refused, ?_⟩
      intro earlier other among misnamed
      cases earlier with
      | zero =>
        obtain rfl : raw = other := Option.some.inj among
        exact absurd misnamed (readable_iff.mp (parse_eq_ok_iff.mp read).1)
      | succ earlier => exact Nat.succ_le_succ (least earlier other among misnamed)
    · cases impossible

end Line

namespace Program

/-- The lines of a source that carry a label, counted from zero. -/
def carriersIn (source label : Text) : Set Nat :=
  {index | ∃ raw, (source.splitOn '\n')[index]? = some raw ∧ Line.Carries raw label}

/-- The lines of a source that cannot be read, counted from zero. -/
def misnamedIn (source : Text) : Set Nat :=
  {index | ∃ raw, (source.splitOn '\n')[index]? = some raw ∧ Line.Misnamed raw}

/-- A program with all the lines of a source and all its labels. -/
structure LoadedFrom (source : Text) (program : Program) : Prop where
  size : program.size = source.count '\n' + 1
  numbers : ∀ index line, program.lines[index]? = some line → line.number = index + 1
  sources : ∃ raws, List.Forall₂ (fun raw line => Line.Ended raw line.source) raws program.lines.toList ∧
    ['\n'].intercalate raws = source
  texts : ∀ line ∈ program.lines, Text.Tidy line.text
  names : ∀ label, label ∈ program.table ↔ (carriersIn source label).Nonempty
  targets : ∀ label index, program.table[label]? = some index ↔ IsGreatest (carriersIn source label) index

section Loaded

variable {source : Text} {program : Program} (loaded : load source = .ok program)
include loaded

theorem carriers_eq (label : Text) : program.carriers label = carriersIn source label := by
  ext index
  rw [mem_carriers_iff loaded, Option.bind_eq_some_iff]
  simp only [carriersIn, Line.carries_iff, Set.mem_ofPred_eq]

theorem load_size : program.size = source.count '\n' + 1 := by
  rw [(load_eq_ok_iff.mp loaded).1, length_splitOn]

theorem load_sources : program.lines.toList.map Line.source = (source.splitOn '\n').map Line.dropReturn := by
  apply List.ext_getElem?
  intro index
  rw [List.getElem?_map, List.getElem?_map, Array.getElem?_toList, load_line loaded, Option.map_map]
  rfl

theorem loadedFrom : LoadedFrom source program := by
  constructor
  · exact load_size loaded
  · intro index line held
    exact load_number loaded held
  · refine ⟨source.splitOn '\n', ?_, List.intercalate_splitOn '\n'⟩
    have sources := (load_sources loaded).symm
    rw [← List.forall₂_eq_eq_eq, List.forall₂_map_left_iff, List.forall₂_map_right_iff] at sources
    exact sources.imp fun _ _ same => Line.ended_iff.mpr same
  · intro line member
    obtain ⟨index, held⟩ := Array.mem_iff_getElem?.mp member
    rw [load_line loaded] at held
    obtain ⟨raw, found, same⟩ := Option.map_eq_some_iff.mp held
    rw [← same]
    exact Line.parts_tidy (not_mem_of_mem_splitOn (List.mem_of_getElem? found))
  · intro label
    rw [Std.TreeMap.mem_iff_isSome_getElem?, ← carriers_eq loaded, Set.nonempty_iff_ne_empty, Ne, ← target?_eq_none_iff]
    exact Option.isSome_iff_ne_none
  · intro label index
    rw [← carriers_eq loaded]
    exact target?_eq_some_iff

end Loaded

theorem load_fails_first {source : Text} {diagnostic : Diagnostic} (failed : load source = .error diagnostic) :
    ∃ index raw label, IsLeast (misnamedIn source) index ∧ (source.splitOn '\n')[index]? = some raw ∧
      Line.Carries raw label ∧ diagnostic = (Fault.invalidLabel label).atLine (index + 1) := by
  rcases bind_eq_error.mp failed with failed | ⟨_, _, impossible⟩
  · obtain ⟨index, raw, held, refused, least⟩ := Line.parse_all_first failed
    rw [Nat.zero_add] at refused
    obtain ⟨label, carries, misnamed, same⟩ := Line.parse_eq_error_iff.mp refused
    refine ⟨index, raw, label, ⟨⟨raw, held, label, carries, misnamed⟩, ?_⟩, held, carries, same⟩
    intro earlier member
    obtain ⟨other, found, misnamed⟩ := member
    exact least earlier other found misnamed
  · cases impossible

theorem load_fails_iff {source : Text} :
    (∃ diagnostic, load source = .error diagnostic) ↔ ∃ raw ∈ source.splitOn '\n', Line.Misnamed raw := by
  constructor
  · intro failed
    obtain ⟨diagnostic, failed⟩ := failed
    obtain ⟨index, _, _, least, _⟩ := load_fails_first failed
    obtain ⟨raw, found, misnamed⟩ := least.1
    exact ⟨raw, List.mem_of_getElem? found, misnamed⟩
  · intro refused
    obtain ⟨raw, member, misnamed⟩ := refused
    cases loaded : load source with
    | error diagnostic => exact ⟨diagnostic, rfl⟩
    | ok program => exact absurd misnamed (Line.readable_iff.mp (load_iff_readable.mp ⟨program, loaded⟩ raw member))

/-- Loading fails exactly if some label has a space or a tab in it, and then with the first line that has such a label.
Otherwise it gives a program with all the lines and all the labels of the source. -/
theorem load_outcome (source : Text) :
    ((∃ diagnostic, load source = .error diagnostic) ↔ ∃ raw ∈ source.splitOn '\n', Line.Misnamed raw) ∧
    (∀ diagnostic, load source = .error diagnostic →
      ∃ index raw label, IsLeast (misnamedIn source) index ∧ (source.splitOn '\n')[index]? = some raw ∧
        Line.Carries raw label ∧
        diagnostic = ⟨.invalidLabel, "Label " ++ String.ofList label ++ " is invalid", some (index + 1)⟩) ∧
    ∀ program, load source = .ok program → LoadedFrom source program :=
  ⟨load_fails_iff, fun _ => load_fails_first, fun _ => loadedFrom⟩

/-- The later of two lines counts for their label, and a colon in a comment for nothing. Of two bad labels the first is
reported. -/
theorem load_outcome_of_repeated_and_bad_labels :
    (∃ program, load "go:\r\n go:: HALT ;a b:".toList = .ok program ∧
      LoadedFrom "go:\r\n go:: HALT ;a b:".toList program ∧ program.table["go".toList]? = some 1) ∧
    load "a:\nb c:\n\td e:".toList = .error ⟨.invalidLabel, "Label b c is invalid", some 2⟩ ∧
      IsLeast (misnamedIn "a:\nb c:\n\td e:".toList) 1 := by
  let program := ofLines [⟨1, "go:".toList, some "go".toList, []⟩,
    ⟨2, " go:: HALT ;a b:".toList, some "go".toList, "HALT".toList⟩]
  have loaded : load "go:\r\n go:: HALT ;a b:".toList = .ok program := rfl
  have failed : load "a:\nb c:\n\td e:".toList = .error ⟨.invalidLabel, "Label b c is invalid", some 2⟩ := rfl
  obtain ⟨_, _, loads⟩ := load_outcome "go:\r\n go:: HALT ;a b:".toList
  obtain ⟨_, fails, _⟩ := load_outcome "a:\nb c:\n\td e:".toList
  refine ⟨⟨program, loaded, loads program loaded, rfl⟩, failed, ?_⟩
  obtain ⟨index, _, _, least, _, _, same⟩ := fails _ failed
  have second : (2 : Int) = index + 1 := Option.some.inj (congrArg Diagnostic.line same)
  obtain rfl : index = 1 := by omega
  exact least

end Program
end RandomAccess
