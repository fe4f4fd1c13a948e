import RandomAccess.Proofs.TextTrimming
import RandomAccess.Source.Program

/-! The parts of a line: its label and its instruction text. Neither depends on the indentation, on a comment,
on blanks at the end or on the carriage return of the line break. -/

namespace RandomAccess

theorem intercalate_splitOn_eq_map (blank mark : Char) (text : Text) :
    [blank].intercalate (text.splitOn mark) = text.map fun c => if c = mark then blank else c := by
  induction text with
  | nil => simp
  | cons c rest ih =>
    obtain ⟨first, others, split⟩ := List.exists_cons_of_ne_nil (List.splitOn_ne_nil mark rest)
    rw [List.splitOn_cons_eq_if_modifyHead, List.map_cons, ← ih, split]
    by_cases same : c = mark
    · simp [same, List.intercalate_cons_cons]
    · cases others <;> simp [same, List.intercalate_cons_cons]

theorem not_mem_of_mem_splitOn {mark : Char} {text part : Text} (member : part ∈ text.splitOn mark) : mark ∉ part := by
  induction text generalizing part with
  | nil =>
    obtain rfl : part = [] := by simpa using member
    exact List.not_mem_nil
  | cons c rest ih =>
    obtain ⟨first, others, split⟩ := List.exists_cons_of_ne_nil (List.splitOn_ne_nil mark rest)
    rw [List.splitOn_cons_eq_if_modifyHead, split] at member
    rw [split] at ih
    split at member
    next same =>
      rcases List.mem_cons.mp member with rfl | later
      · exact List.not_mem_nil
      · exact ih later
    next other =>
      rcases List.mem_cons.mp member with rfl | later
      · have apart : mark ≠ c := by
          rintro rfl
          simp at other
        simp [apart, ih List.mem_cons_self]
      · exact ih (List.mem_cons_of_mem _ later)

namespace Line

/-- A colon after the first stands for a blank. -/
def spaced (text : Text) : Text :=
  text.map fun c => if c = ':' then ' ' else c

theorem spaced_eq_self {text : Text} (unmarked : ':' ∉ text) : spaced text = text := by
  have each : ∀ c ∈ text, (if c = ':' then ' ' else c) = c := by
    intro c member
    apply if_neg
    rintro rfl
    exact unmarked member
  rw [spaced, List.map_congr_left each, List.map_id']

theorem splitLabel_of_not_mem {code : Text} (unmarked : ':' ∉ code) : splitLabel code = (none, code) := by
  rw [splitLabel, List.splitOn_eq_singleton unmarked]

theorem splitLabel_append {label : Text} (unmarked : ':' ∉ label) (rest : Text) :
    splitLabel (label ++ ':' :: rest) = (some label, spaced rest) := by
  obtain ⟨first, others, split⟩ := List.exists_cons_of_ne_nil (List.splitOn_ne_nil ':' rest)
  rw [splitLabel, List.splitOn_append_cons_self_of_not_mem unmarked, split, spaced, ← intercalate_splitOn_eq_map, split]

/-- The label and the instruction text of a line without its break. -/
def parts (source : Text) : Option Text × Text :=
  ((splitLabel (code source)).1, Text.trim (splitLabel (code source)).2)

theorem parse_eq (index : Nat) (raw : Text) :
    parse index raw = match (parts (dropReturn raw)).1.filter (!validLabel ·) with
      | some label => .error ((Fault.invalidLabel label).atLine (index + 1))
      | none => .ok ⟨index + 1, dropReturn raw, (parts (dropReturn raw)).1, (parts (dropReturn raw)).2⟩ := rfl

variable {gap : Text}

theorem not_mem_of_blank {mark : Char} (blank : Text.Blank gap) (other : Text.isBlank mark = false) : mark ∉ gap := by
  intro member
  rw [blank mark member] at other
  cases other

theorem code_append_blank (blank : Text.Blank gap) (source : Text) :
    code (source ++ gap) = code source ∨ code (source ++ gap) = code source ++ gap := by
  unfold code
  rcases Text.trimLeft_append_blank blank source with same | ⟨none, all⟩
  · rw [same]
    exact Text.before_append _ (not_mem_of_blank blank (by decide))
  · rw [none, all]
    exact .inl rfl

/-- Blanks at the end of a line belong to none of its parts. -/
theorem parts_append_blank (blank : Text.Blank gap) (source : Text) : parts (source ++ gap) = parts source := by
  have clear : ':' ∉ gap := not_mem_of_blank blank (by decide)
  unfold parts
  rcases code_append_blank blank source with same | longer
  · rw [same]
  · rw [longer]
    by_cases marked : ':' ∈ code source
    · obtain ⟨label, rest, same, unmarked⟩ := List.eq_append_cons_of_mem marked
      rw [same, List.append_assoc, List.cons_append, splitLabel_append unmarked, splitLabel_append unmarked]
      have kept : spaced (rest ++ gap) = spaced rest ++ gap := by
        rw [spaced, List.map_append]
        exact congrArg _ (spaced_eq_self clear)
      rw [kept, Text.trim_append_blank blank]
    · have both : ':' ∉ code source ++ gap := by simp [marked, clear]
      rw [splitLabel_of_not_mem both, splitLabel_of_not_mem marked, Text.trim_append_blank blank]

/-- The carriage return of a line break does not show in the parts, whether it is taken off or not. -/
theorem parts_dropReturn (raw : Text) : parts (dropReturn raw) = parts raw := by
  unfold dropReturn
  split
  next returned =>
    obtain ⟨front, rfl⟩ := List.getLast?_eq_some_iff.mp returned
    rw [List.dropLast_concat, parts_append_blank (by decide)]
  next => rfl

theorem parts_blank_append (blank : Text.Blank gap) (source : Text) : parts (gap ++ source) = parts source := by
  unfold parts code
  rw [Text.trimLeft_blank_append blank]

theorem parts_append_comment {source : Text} (unmarked : ';' ∉ source) (comment : Text) :
    parts (source ++ ';' :: comment) = parts source := by
  have clear : ';' ∉ Text.trimLeft source := fun member => unmarked (Text.mem_of_mem_trimLeft member)
  have kept : Text.trimLeft (source ++ ';' :: comment) = Text.trimLeft source ++ ';' :: comment := by
    have halves : Text.trimLeft (source ++ ';' :: comment) =
        if (Text.trimLeft source).isEmpty then Text.trimLeft (';' :: comment)
        else Text.trimLeft source ++ ';' :: comment := List.dropWhile_append
    cases rest : Text.trimLeft source with
    | nil =>
      rw [rest] at halves
      exact halves
    | cons c others =>
      rw [rest] at halves
      exact halves
  unfold parts code
  rw [kept, Text.before_append_mark clear, Text.before_eq_self clear]

theorem parts_unlabelled {source : Text} (unmarked : ';' ∉ source) (plain : ':' ∉ source) :
    parts source = (none, Text.trim source) := by
  have clear {mark : Char} (absent : mark ∉ source) : mark ∉ Text.trimLeft source :=
    fun member => absent (Text.mem_of_mem_trimLeft member)
  unfold parts code
  rw [Text.before_eq_self (clear unmarked), splitLabel_of_not_mem (clear plain), Text.trim_trimLeft]

theorem parts_labelled {label rest : Text} (first : ∀ c, label.head? = some c → Text.isBlank c = false)
    (unmarked : ';' ∉ label ++ rest) (plain : ':' ∉ label ++ rest) :
    parts (label ++ ':' :: rest) = (some label, Text.trim rest) := by
  simp only [List.mem_append, not_or] at unmarked plain
  have begins : ∀ c, (label ++ ':' :: rest).head? = some c → Text.isBlank c = false := by
    intro c begins
    cases label with
    | nil =>
      cases begins
      decide
    | cons d others =>
      cases begins
      exact first _ rfl
  have clear : ';' ∉ label ++ ':' :: rest := by simp [unmarked]
  unfold parts code
  rw [Text.trimLeft_eq_self begins, Text.before_eq_self clear, splitLabel_append plain.1, spaced_eq_self plain.2]

end Line
end RandomAccess
