import Mathlib.Data.List.Induction
import Mathlib.Order.Bounds.Basic
import RandomAccess.Proofs.OperandCells
import RandomAccess.Source.Program

/-! What a loaded program holds. It has one line for each line of the source, numbered from one, and loading
fails only where a line does. The table of labels leads each label to the last line that carries it. -/

namespace RandomAccess

theorem Line.parse_all_eq_ok_iff {raws : List Text} {offset : Nat} {lines : List Line} :
    (raws.zipIdx offset).mapM (fun (raw, index) => Line.parse index raw) = .ok lines ↔
      lines.length = raws.length ∧ ∀ index raw, raws[index]? = some raw →
        ∃ line, lines[index]? = some line ∧ Line.parse (offset + index) raw = .ok line := by
  induction raws generalizing offset lines with
  | nil =>
    constructor
    · intro parsed
      cases parsed
      simp
    · intro empty
      rw [List.eq_nil_of_length_eq_zero empty.1]
      rfl
  | cons raw raws ih =>
    simp only [List.zipIdx_cons, List.mapM_cons, bind_eq_ok, ih]
    constructor
    · intro parsed
      obtain ⟨line, first, rest, ⟨length, others⟩, same⟩ := parsed
      cases same
      refine ⟨by simp [length], ?_⟩
      intro index other found
      cases index with
      | zero =>
        obtain rfl : raw = other := by simpa using found
        exact ⟨line, rfl, first⟩
      | succ index =>
        obtain ⟨later, held, parsed⟩ := others index other (by simpa using found)
        exact ⟨later, by simpa using held, by rwa [Nat.add_right_comm] at parsed⟩
    · intro each
      obtain ⟨length, each⟩ := each
      cases lines with
      | nil => simp at length
      | cons line rest =>
        obtain ⟨_, same, first⟩ := each 0 raw rfl
        cases same
        refine ⟨line, first, rest, ⟨by simpa using length, ?_⟩, rfl⟩
        intro index other found
        obtain ⟨later, held, parsed⟩ := each (index + 1) other (by simpa using found)
        exact ⟨later, by simpa using held, by rwa [Nat.add_right_comm]⟩

namespace Program

/-- A source loads when each of its lines does, and then to those lines. -/
theorem load_eq_ok_iff {source : Text} {program : Program} :
    load source = .ok program ↔
      program.size = (source.splitOn '\n').length ∧ ∀ index raw, (source.splitOn '\n')[index]? = some raw →
        ∃ line, program.lines[index]? = some line ∧ Line.parse index raw = .ok line := by
  simp only [load, bind_eq_ok, Line.parse_all_eq_ok_iff, Nat.zero_add]
  constructor
  · intro loaded
    obtain ⟨lines, ⟨length, each⟩, same⟩ := loaded
    cases same
    refine ⟨by simpa [size, ofLines] using length, ?_⟩
    intro index raw found
    obtain ⟨line, held, parsed⟩ := each index raw found
    exact ⟨line, by simpa [ofLines] using held, parsed⟩
  · intro each
    obtain ⟨length, each⟩ := each
    refine ⟨program.lines.toList, ⟨by simpa [size] using length, ?_⟩, ?_⟩
    · intro index raw found
      obtain ⟨line, held, parsed⟩ := each index raw found
      exact ⟨line, by simpa using held, parsed⟩
    · exact congrArg Except.ok (Program.ext (by simp [ofLines]))

theorem load_nonempty {source : Text} {program : Program} (loaded : load source = .ok program) : 0 < program.size := by
  rw [(load_eq_ok_iff.mp loaded).1]
  exact List.length_pos_iff.mpr (List.splitOn_ne_nil '\n' source)

end Program

theorem Line.parse_number {index : Nat} {raw : Text} {line : Line} (parsed : Line.parse index raw = .ok line) :
    line.number = index + 1 := by
  simp only [Line.parse] at parsed
  split at parsed <;> cases parsed
  rfl

theorem Program.load_number {source : Text} {program : Program} (loaded : load source = .ok program) {index : Nat}
    {line : Line} (held : program.lines[index]? = some line) : line.number = index + 1 := by
  obtain ⟨length, each⟩ := load_eq_ok_iff.mp loaded
  have inside : index < (source.splitOn '\n').length := by
    rw [← length]
    exact (Array.getElem?_eq_some_iff.mp held).1
  obtain ⟨same, found, parsed⟩ := each index _ (List.getElem?_eq_getElem inside)
  rw [held] at found
  cases found
  exact Line.parse_number parsed

namespace Definition

theorem lookup_concat (lines : List Line) (line : Line) (label : Text) :
    (ofLines (lines ++ [line])).reverse.lookup label =
      if line.label? = some label then some lines.length else (ofLines lines).reverse.lookup label := by
  have last : ofLines (lines ++ [line]) = ofLines lines ++ (line.label?.map (·, lines.length)).toList := by
    simp only [ofLines, List.zipIdx_append, List.filterMap_append, List.zipIdx_singleton, Nat.zero_add]
    cases named : line.label? <;> simp [named]
  rw [last]
  cases named : line.label? with
  | none => simp
  | some other =>
    by_cases same : other = label
    · simp [same]
    · simp [same, List.lookup_cons, beq_eq_false_iff_ne.2 (Ne.symm same)]

def carriers (lines : List Line) (label : Text) : Set Nat :=
  {index | lines[index]?.bind (·.label?) = some label}

theorem mem_carriers {lines : List Line} {label : Text} {index : Nat} :
    index ∈ carriers lines label ↔ lines[index]?.bind (·.label?) = some label := Iff.rfl

theorem mem_carriers_concat {lines : List Line} {line : Line} {label : Text} {index : Nat} :
    index ∈ carriers (lines ++ [line]) label ↔
      index ∈ carriers lines label ∨ index = lines.length ∧ line.label? = some label := by
  simp only [mem_carriers]
  rcases Nat.lt_trichotomy index lines.length with before | rfl | after
  · simp [List.getElem?_append_left before, Nat.ne_of_lt before]
  · simp
  · have beyond : ¬ index < (lines ++ [line]).length := by
      simp only [List.length_append, List.length_singleton]
      omega
    simp [List.getElem?_eq_none (Nat.le_of_lt after), List.getElem?_eq_none (Nat.le_of_not_lt beyond), Nat.ne_of_gt after]

theorem lt_length_of_mem_carriers {lines : List Line} {label : Text} {index : Nat} (member : index ∈ carriers lines label) :
    index < lines.length := by
  obtain ⟨line, held, _⟩ := Option.bind_eq_some_iff.mp member
  exact (List.getElem?_eq_some_iff.mp held).1

theorem lookup_eq_none_iff {lines : List Line} {label : Text} :
    (ofLines lines).reverse.lookup label = none ↔ carriers lines label = ∅ := by
  rw [Set.eq_empty_iff_forall_notMem]
  induction lines using List.reverseRecOn with
  | nil => simp [ofLines, carriers]
  | append_singleton lines line ih =>
    rw [lookup_concat]
    simp only [mem_carriers_concat]
    split
    next named =>
      simp only [reduceCtorEq, named, and_true, false_iff, not_forall, not_not]
      exact ⟨lines.length, .inr rfl⟩
    next other => simp [ih, other]

theorem lookup_eq_some_iff {lines : List Line} {label : Text} {index : Nat} :
    (ofLines lines).reverse.lookup label = some index ↔ IsGreatest (carriers lines label) index := by
  induction lines using List.reverseRecOn with
  | nil => simp [ofLines, carriers, IsGreatest]
  | append_singleton lines line ih =>
    rw [lookup_concat]
    split
    next named =>
      have greatest : IsGreatest (carriers (lines ++ [line]) label) lines.length := by
        refine ⟨mem_carriers_concat.mpr (.inr ⟨rfl, named⟩), ?_⟩
        intro other member
        rcases mem_carriers_concat.mp member with earlier | ⟨rfl, _⟩
        · exact Nat.le_of_lt (lt_length_of_mem_carriers earlier)
        · exact Nat.le_refl _
      constructor
      · intro same
        cases same
        exact greatest
      · intro other
        exact congrArg some (greatest.unique other)
    next other =>
      have same : carriers (lines ++ [line]) label = carriers lines label := by
        ext index
        simp [mem_carriers_concat, other]
      rw [ih, same]

end Definition

namespace Program

variable {program : Program} {label : Text}

theorem line?_natCast (index : Nat) : program.line? index = program.lines[index]? := by
  rw [line?, if_neg (by omega), Int.toNat_natCast]

def carriers (program : Program) (label : Text) : Set Nat :=
  Definition.carriers program.lines.toList label

theorem target?_eq_some_iff {index : Nat} : program.target? label = some index ↔ IsGreatest (program.carriers label) index := by
  rw [target?_eq]
  exact Definition.lookup_eq_some_iff

theorem target?_eq_none_iff : program.target? label = none ↔ program.carriers label = ∅ := by
  rw [target?_eq]
  exact Definition.lookup_eq_none_iff

theorem target?_lt {index : Nat} (known : program.target? label = some index) : index < program.size := by
  have member : index ∈ program.carriers label := (target?_eq_some_iff.mp known).1
  exact Definition.lt_length_of_mem_carriers member

end Program
end RandomAccess
