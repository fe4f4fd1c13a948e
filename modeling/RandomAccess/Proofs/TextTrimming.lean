import RandomAccess.Text

/-! Blanks at the edges of a text, and marks inside it. Trimming forgets blanks that were added at either end
and leaves alone a text without them, and so does squeezing for blanks anywhere; what stands before a mark does not
depend on what follows it. -/

namespace RandomAccess.Text

def Blank (text : Text) : Prop :=
  ∀ c ∈ text, isBlank c = true

instance (text : Text) : Decidable (Blank text) :=
  List.decidableBAll (isBlank · = true) text

variable {text gap : Text} {mark : Char}

section Run

variable {kind : Char → Bool} {run rest : Text} (all : ∀ c ∈ run, kind c = true)
  (ends : ∀ c, rest.head? = some c → kind c = false)
include all ends

/-- A run of characters of one kind ends where the next is of another. -/
theorem takeWhile_run : (run ++ rest).takeWhile kind = run := by
  have stop : rest.takeWhile kind = [] := by
    cases rest with
    | nil => rfl
    | cons c others => exact List.takeWhile_cons_of_neg (by simp [ends c rfl])
  rw [List.takeWhile_append_of_pos all, stop, List.append_nil]

theorem dropWhile_run : (run ++ rest).dropWhile kind = rest := by
  have stop : rest.dropWhile kind = rest := by
    cases rest with
    | nil => rfl
    | cons c others => exact List.dropWhile_cons_of_neg (by simp [ends c rfl])
  rw [List.dropWhile_append_of_pos all, stop]

end Run

theorem trimLeft_blank_append (blank : Blank gap) (text : Text) : trimLeft (gap ++ text) = trimLeft text :=
  List.dropWhile_append_of_pos blank

theorem trimLeft_of_blank (blank : Blank gap) : trimLeft gap = [] := by
  simpa [trimLeft] using trimLeft_blank_append blank []

theorem trimLeft_append_blank (blank : Blank gap) (text : Text) :
    trimLeft (text ++ gap) = trimLeft text ++ gap ∨ trimLeft text = [] ∧ trimLeft (text ++ gap) = [] := by
  have halves : trimLeft (text ++ gap) = if (trimLeft text).isEmpty then trimLeft gap else trimLeft text ++ gap :=
    List.dropWhile_append
  cases rest : trimLeft text with
  | nil =>
    rw [rest, trimLeft_of_blank blank] at halves
    exact .inr ⟨rfl, halves⟩
  | cons c others =>
    rw [rest] at halves
    exact .inl halves

theorem trimRight_append_blank (blank : Blank gap) (text : Text) : trimRight (text ++ gap) = trimRight text := by
  have reversed : ∀ c ∈ gap.reverse, isBlank c = true := by
    intro c member
    exact blank c (List.mem_reverse.mp member)
  simp only [trimRight, List.reverse_append]
  rw [List.dropWhile_append_of_pos reversed]

theorem trim_blank_append (blank : Blank gap) (text : Text) : trim (gap ++ text) = trim text := by
  rw [trim, trimLeft_blank_append blank, trim]

theorem trim_append_blank (blank : Blank gap) (text : Text) : trim (text ++ gap) = trim text := by
  unfold trim
  rcases trimLeft_append_blank blank text with same | ⟨none, all⟩
  · rw [same, trimRight_append_blank blank]
  · rw [none, all]

theorem trimLeft_eq_self (first : ∀ c, text.head? = some c → isBlank c = false) : trimLeft text = text := by
  cases text with
  | nil => rfl
  | cons c rest => exact List.dropWhile_cons_of_neg (by simp [first c rfl])

theorem trimRight_eq_self (last : ∀ c, text.getLast? = some c → isBlank c = false) : trimRight text = text := by
  have reversed : trimLeft text.reverse = text.reverse := by
    apply trimLeft_eq_self
    intro c first
    rw [List.head?_reverse] at first
    exact last c first
  change (trimLeft text.reverse).reverse = text
  rw [reversed, List.reverse_reverse]

theorem trimRight_append_of_visible {front : Text} (last : ∀ c, front.getLast? = some c → isBlank c = false) (text : Text) :
    trimRight (front ++ text) = front ++ trimRight text := by
  have kept : (front.reverse.dropWhile isBlank).reverse = front := trimRight_eq_self last
  rw [trimRight, List.reverse_append, List.dropWhile_append]
  split
  next nothing => rw [kept, trimRight, List.isEmpty_iff.mp nothing, List.reverse_nil, List.append_nil]
  next => rw [List.reverse_append, List.reverse_reverse, trimRight]

theorem trim_eq_self (first : ∀ c, text.head? = some c → isBlank c = false)
    (last : ∀ c, text.getLast? = some c → isBlank c = false) : trim text = text := by
  rw [trim, trimLeft_eq_self first, trimRight_eq_self last]

theorem isBlank_head?_trimLeft {c : Char} (first : (trimLeft text).head? = some c) : isBlank c = false := by
  have stopped := List.head?_dropWhile_not isBlank text
  have same : (text.dropWhile isBlank).head? = some c := first
  simpa only [same] using stopped

theorem trim_trimLeft (text : Text) : trim (trimLeft text) = trim text := by
  have again : trimLeft (trimLeft text) = trimLeft text := trimLeft_eq_self fun _ => isBlank_head?_trimLeft
  rw [trim, again, trim]

/-- What trimming leaves out at the end of a text is blank. -/
theorem exists_trimRight_append (text : Text) : ∃ gap, Blank gap ∧ trimRight text ++ gap = text := by
  refine ⟨(text.reverse.takeWhile isBlank).reverse, ?_, ?_⟩
  · intro c member
    exact List.all_eq_true.mp List.all_takeWhile c (List.mem_reverse.mp member)
  · rw [trimRight, ← List.reverse_append, List.takeWhile_append_dropWhile, List.reverse_reverse]

theorem exists_trim_append (text : Text) :
    ∃ indent atEnd, Blank indent ∧ Blank atEnd ∧ indent ++ (trim text ++ atEnd) = text := by
  obtain ⟨atEnd, ended, whole⟩ := exists_trimRight_append (trimLeft text)
  refine ⟨text.takeWhile isBlank, atEnd, List.all_eq_true.mp List.all_takeWhile, ended, ?_⟩
  rw [trim, whole, trimLeft, List.takeWhile_append_dropWhile]

theorem trimRight_isPrefix (text : Text) : trimRight text <+: text := by
  obtain ⟨gap, _, whole⟩ := exists_trimRight_append text
  exact ⟨gap, whole⟩

theorem isBlank_head?_trim {c : Char} (first : (trim text).head? = some c) : isBlank c = false := by
  obtain ⟨rest, whole⟩ := trimRight_isPrefix (trimLeft text)
  apply @isBlank_head?_trimLeft text
  rw [← whole, List.head?_append]
  exact Option.or_eq_some_iff.mpr (.inl first)

theorem isBlank_getLast?_trim {c : Char} (last : (trim text).getLast? = some c) : isBlank c = false := by
  have first : (trimLeft (trimLeft text).reverse).reverse.getLast? = some c := last
  rw [List.getLast?_reverse] at first
  exact isBlank_head?_trimLeft first

theorem mem_of_mem_trimLeft {c : Char} (member : c ∈ trimLeft text) : c ∈ text :=
  List.dropWhile_subset isBlank member

theorem mem_of_mem_trim {c : Char} (member : c ∈ trim text) : c ∈ text :=
  mem_of_mem_trimLeft ((trimRight_isPrefix (trimLeft text)).subset member)

theorem squeeze_append (first second : Text) : squeeze (first ++ second) = squeeze first ++ squeeze second :=
  List.filter_append first second

theorem squeeze_eq_self_iff : squeeze text = text ↔ ∀ c ∈ text, isBlank c = false := by
  simp only [squeeze, List.filter_eq_self, Bool.not_eq_eq_eq_not, Bool.not_true]

theorem Blank.squeeze_eq (blank : Blank gap) : squeeze gap = [] := by
  apply List.filter_eq_nil_iff.mpr
  intro c member
  simp [blank c member]

theorem squeeze_trimRight (text : Text) : squeeze (trimRight text) = squeeze text := by
  obtain ⟨gap, blank, whole⟩ := exists_trimRight_append text
  rw [← congrArg squeeze whole, squeeze_append, blank.squeeze_eq, List.append_nil]

theorem not_mem_before (mark : Char) (text : Text) : mark ∉ before mark text := by
  intro member
  have passed := List.all_eq_true.mp List.all_takeWhile mark member
  simp at passed

theorem before_append_of_not_mem (unmarked : mark ∉ text) (rest : Text) :
    before mark (text ++ rest) = text ++ before mark rest := by
  apply List.takeWhile_append_of_pos
  intro c member
  apply bne_iff_ne.mpr
  rintro rfl
  exact unmarked member

theorem before_eq_self (unmarked : mark ∉ text) : before mark text = text := by
  have whole : before mark (text ++ []) = text ++ [] := before_append_of_not_mem unmarked []
  rwa [List.append_nil] at whole

theorem before_append_mark (unmarked : mark ∉ text) (rest : Text) : before mark (text ++ mark :: rest) = text := by
  have stop : before mark (mark :: rest) = [] := List.takeWhile_cons_of_neg (by simp)
  rw [before_append_of_not_mem unmarked, stop, List.append_nil]

theorem before_append (text : Text) (unmarked : mark ∉ gap) :
    before mark (text ++ gap) = before mark text ∨ before mark (text ++ gap) = before mark text ++ gap := by
  by_cases marked : mark ∈ text
  · obtain ⟨front, back, rfl, clear⟩ := List.eq_append_cons_of_mem marked
    rw [List.append_assoc, List.cons_append, before_append_mark clear, before_append_mark clear]
    exact .inl rfl
  · have both : mark ∉ text ++ gap := by simp [marked, unmarked]
    rw [before_eq_self both, before_eq_self marked]
    exact .inr rfl

end RandomAccess.Text
