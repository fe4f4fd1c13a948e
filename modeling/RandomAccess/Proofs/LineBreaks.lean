import RandomAccess.CommandLine.Session
import RandomAccess.Proofs.JoinedSources
import RandomAccess.Proofs.SourceRoundTrip

/-! The line breaks of a file and of a text in memory. A file is read with every line break made a newline; a text in
memory is taken as it is, and a line loses the carriage return at its end only when it is loaded. If every carriage return
is followed by a newline, both ways lead to the same program. If one is not, it breaks a line in a file and nowhere else. -/

namespace RandomAccess

namespace Text

/-- Every carriage return is followed by a newline. -/
def Paired (text : Text) : Prop :=
  ∀ front back, text = front ++ '\r' :: back → back.head? = some '\n'

theorem paired_nil : Paired [] := by
  intro front back split
  cases front <;> cases split

theorem paired_cons_iff {c : Char} {text : Text} :
    Paired (c :: text) ↔ (c = '\r' → text.head? = some '\n') ∧ Paired text := by
  constructor
  · intro paired
    refine ⟨fun same => paired [] text (by rw [same, List.nil_append]), ?_⟩
    intro front back split
    exact paired (c :: front) back (by rw [split, List.cons_append])
  · intro both front back split
    obtain ⟨next, paired⟩ := both
    cases front with
    | nil =>
      obtain ⟨same, rfl⟩ := List.cons.inj split
      exact next same
    | cons _ front => exact paired front back (List.cons.inj split).2

instance decidablePaired : (text : Text) → Decidable text.Paired
  | [] => isTrue paired_nil
  | _ :: text =>
    have := decidablePaired text
    decidable_of_iff' _ paired_cons_iff

/-- The line breaks of a text made newlines, when the text comes after some character. -/
def unifyAfter (previous : Char) (text : Text) : Text :=
  ((previous :: text).zip text).filterMap fun (previous, c) =>
    if previous = '\r' ∧ c = '\n' then none else some (if c = '\r' then '\n' else c)

theorem unifyBreaks_eq (text : Text) : unifyBreaks text = unifyAfter ' ' text := rfl

theorem unifyAfter_cons (previous c : Char) (text : Text) :
    unifyAfter previous (c :: text) =
      if previous = '\r' ∧ c = '\n' then unifyAfter c text else (if c = '\r' then '\n' else c) :: unifyAfter c text := by
  rw [unifyAfter, List.zip_cons_cons, List.filterMap_cons]
  by_cases pair : previous = '\r' ∧ c = '\n'
  · simp only [if_pos pair]
    rfl
  · simp only [if_neg pair]
    rfl

/-- The newline that a carriage return has become. A newline after it adds nothing. -/
def owed (previous : Char) : Text :=
  if previous = '\r' then ['\n'] else []

/-- Making the line breaks of a paired text newlines is leaving out its carriage returns. -/
theorem unifyAfter_of_paired {text : Text} (paired : Paired text) (previous : Char)
    (follows : previous = '\r' → text.head? = some '\n') :
    owed previous ++ unifyAfter previous text = text.filter (· != '\r') := by
  induction text generalizing previous with
  | nil =>
    have other : previous ≠ '\r' := fun same => absurd (follows same) (by simp)
    rw [owed, if_neg other]
    rfl
  | cons c text ih =>
    -- What is owed for the character before the text is the newline that the text itself begins with.
    obtain ⟨next, paired⟩ := paired_cons_iff.mp paired
    have rest := ih paired c next
    rw [unifyAfter_cons, List.filter_cons, ← rest]
    by_cases returned : previous = '\r'
    · obtain rfl : c = '\n' := Option.some.inj (follows returned)
      simp [owed, returned]
    · by_cases here : c = '\r' <;> simp [owed, returned, here]

theorem unifyBreaks_of_paired {text : Text} (paired : Paired text) : unifyBreaks text = text.filter (· != '\r') :=
  unifyAfter_of_paired paired ' ' fun impossible => absurd impossible (by decide)

theorem unifyAfter_of_head? {text : Text} (other : text.head? ≠ some '\n') (previous : Char) :
    unifyAfter previous text = unifyBreaks text := by
  cases text with
  | nil => rfl
  | cons c text =>
    have kept : c ≠ '\n' := fun same => other (by rw [same]; rfl)
    rw [unifyBreaks_eq, unifyAfter_cons, unifyAfter_cons]
    simp [kept]

theorem unifyAfter_append_return (previous : Char) (front back : Text) :
    unifyAfter previous (front ++ '\r' :: back) = unifyAfter previous front ++ '\n' :: unifyAfter '\r' back := by
  induction front generalizing previous with
  | nil => simp [unifyAfter]
  | cons c front ih =>
    rw [List.cons_append, unifyAfter_cons, unifyAfter_cons, ih]
    split <;> rfl

/-- No line break is lost. -/
theorem count_le_unifyAfter (text : Text) (previous : Char) :
    text.count '\n' ≤ (owed previous ++ unifyAfter previous text).count '\n' := by
  induction text generalizing previous with
  | nil => exact Nat.zero_le _
  | cons c text ih =>
    have rest := ih c
    rw [unifyAfter_cons]
    split <;> grind [owed]

/-- A carriage return without a newline becomes a line break of its own. -/
theorem count_lt_unifyBreaks {text : Text} (alone : ¬ Paired text) : text.count '\n' < (unifyBreaks text).count '\n' := by
  simp only [Paired, not_forall] at alone
  obtain ⟨front, back, split, other⟩ := alone
  have before : front.count '\n' ≤ (unifyBreaks front).count '\n' := count_le_unifyAfter front ' '
  have after : back.count '\n' ≤ (unifyBreaks back).count '\n' := count_le_unifyAfter back ' '
  have halves : unifyBreaks text = unifyBreaks front ++ '\n' :: unifyBreaks back := by
    rw [split, unifyBreaks_eq, unifyAfter_append_return, unifyAfter_of_head? other]
    rfl
  rw [halves, split, List.count_append, List.count_append, List.count_cons_self, List.count_cons_of_ne (by decide)]
  omega

end Text

theorem splitOn_filter {keep : Char → Bool} {mark : Char} (kept : keep mark = true) (text : Text) :
    (text.filter keep).splitOn mark = (text.splitOn mark).map (List.filter keep) := by
  induction text with
  | nil => rfl
  | cons c text ih =>
    obtain ⟨first, others, split⟩ := List.exists_cons_of_ne_nil (List.splitOn_ne_nil mark text)
    rw [List.splitOn_cons_eq_if_modifyHead, split]
    rw [split] at ih
    by_cases same : c = mark
    · rw [same, List.filter_cons_of_pos kept, List.splitOn_cons_eq_if_modifyHead, ih]
      simp
    · by_cases visible : keep c = true
      · rw [List.filter_cons_of_pos visible, List.splitOn_cons_eq_if_modifyHead, ih]
        simp [same, visible]
      · rw [List.filter_cons_of_neg visible, ih]
        simp [same, visible]

namespace Line

variable {raw : Text}

theorem dropReturn_of_not_mem (absent : '\r' ∉ raw) : dropReturn raw = raw :=
  if_neg fun last => absent (List.mem_of_getLast? last)

/-- In a paired text, a carriage return ends its line. -/
theorem ends_of_paired {text : Text} (paired : text.Paired) (member : raw ∈ text.splitOn '\n') {front back : Text}
    (split : raw = front ++ '\r' :: back) : back = [] := by
  have inside := isInfix_intercalate '\n' member
  rw [List.intercalate_splitOn] at inside
  obtain ⟨before, after, whole⟩ := inside
  have next : (back ++ after).head? = some '\n' := by
    apply paired (before ++ front)
    rw [← whole, split]
    simp only [List.append_assoc, List.cons_append]
  cases back with
  | nil => rfl
  | cons c back =>
    obtain rfl : c = '\n' := Option.some.inj next
    exact absurd (by simp [split]) (not_mem_of_mem_splitOn member)

/-- If the only carriage return ends the line, it makes no difference which way it is taken off. -/
theorem filter_eq_dropReturn (ends : ∀ front back, raw = front ++ '\r' :: back → back = []) :
    raw.filter (· != '\r') = dropReturn raw := by
  have clear {text : Text} (absent : '\r' ∉ text) : text.filter (· != '\r') = text := by
    apply List.filter_eq_self.mpr
    intro c member
    apply bne_iff_ne.mpr
    rintro rfl
    exact absent member
  unfold dropReturn
  split
  next returned =>
    obtain ⟨front, rfl⟩ := List.getLast?_eq_some_iff.mp returned
    have absent : '\r' ∉ front := by
      intro member
      obtain ⟨first, second, same, _⟩ := List.eq_append_cons_of_mem member
      have none := ends first (second ++ ['\r']) (by rw [same, List.append_assoc, List.cons_append])
      simp at none
    rw [List.filter_append, clear absent, List.dropLast_concat]
    simp
  next other =>
    apply clear
    intro member
    obtain ⟨front, back, same, _⟩ := List.eq_append_cons_of_mem member
    obtain rfl := ends front back same
    exact other (by rw [same, List.getLast?_concat])

theorem parseAll_congr {first second : List Text} (same : first.map dropReturn = second.map dropReturn) (offset : Nat) :
    parseAll offset first = parseAll offset second := by
  induction first generalizing second offset with
  | nil => rw [List.map_eq_nil_iff.mp same.symm]
  | cons raw first ih =>
    obtain ⟨other, rest, rfl, alike, others⟩ := List.map_eq_cons_iff.mp same.symm
    rw [parseAll_cons, parseAll_cons, ih others.symm, parse_eq, parse_eq, alike]

end Line

namespace Program

/-- A program depends on the lines of its source without their carriage returns. -/
theorem load_congr {first second : Text}
    (same : (first.splitOn '\n').map Line.dropReturn = (second.splitOn '\n').map Line.dropReturn) :
    load first = load second := by
  rw [load_eq, load_eq, Line.parseAll_congr same]

theorem load_of_paired {source : Text} (paired : source.Paired) : load (Text.unifyBreaks source) = load source := by
  apply load_congr
  rw [Text.unifyBreaks_of_paired paired, splitOn_filter (by decide), List.map_map]
  apply List.map_congr_left
  intro raw member
  have dropped := Line.filter_eq_dropReturn fun _ _ => Line.ends_of_paired paired member
  have absent : '\r' ∉ raw.filter (· != '\r') := by simp
  rw [Function.comp_apply, Line.dropReturn_of_not_mem absent, dropped]

/-- If every carriage return of a source is followed by a newline, a file with that source loads as the source itself
does: to the same lines and labels, or with the same error. A source that loads does not load alike from a file if some
carriage return is not followed by a newline. -/
theorem file_loads_alike (source : Text) :
    (source.Paired → load (Text.unifyBreaks source) = load source ∧
      ∀ (options : Options) (path : Text), Options.given options.program? = some path →
        ∃ content opening, Session.openSource options (.text source) = .ok (content, opening) ∧
          load content = load source) ∧
    ∀ program, load source = .ok program → (load (Text.unifyBreaks source) = .ok program ↔ source.Paired) := by
  refine ⟨?_, ?_⟩
  · intro paired
    refine ⟨load_of_paired paired, ?_⟩
    intro options path given
    refine ⟨Text.unifyBreaks source, Session.remark options.quiet ("Loading program: " ++ String.ofList path), ?_,
      load_of_paired paired⟩
    rw [Session.openSource, given]
  · intro program loaded
    constructor
    · intro again
      by_contra alone
      have more := Text.count_lt_unifyBreaks alone
      have size := (load_size loaded).symm.trans (load_size again)
      omega
    · intro paired
      rw [load_of_paired paired, loaded]

/-- A label and a comment that end with a carriage return; and a carriage return at the end of a source, which makes one
more line of it in a file. -/
theorem file_loads_alike_of_returns :
    Text.Paired "go:\r\nJUMP go ;a:\r\n\r\n".toList ∧
    (∃ program, load "go:\r\nJUMP go ;a:\r\n\r\n".toList = .ok program ∧
      load (Text.unifyBreaks "go:\r\nJUMP go ;a:\r\n\r\n".toList) = .ok program ∧
      ∃ content opening, Session.openSource { program? := some "go".toList } (.text "go:\r\nJUMP go ;a:\r\n\r\n".toList) =
        .ok (content, opening) ∧ load content = .ok program) ∧
    ∃ program, load "HALT\r".toList = .ok program ∧ load (Text.unifyBreaks "HALT\r".toList) ≠ .ok program := by
  obtain ⟨alike, _⟩ := file_loads_alike "go:\r\nJUMP go ;a:\r\n\r\n".toList
  obtain ⟨_, only⟩ := file_loads_alike "HALT\r".toList
  have paired : Text.Paired "go:\r\nJUMP go ;a:\r\n\r\n".toList := by decide
  have alone : ¬ Text.Paired "HALT\r".toList := by decide
  obtain ⟨same, opened⟩ := alike paired
  refine ⟨paired, ⟨_, rfl, same, opened _ _ rfl⟩, _, rfl, ?_⟩
  intro again
  exact alone ((only _ rfl).mp again)

end Program
end RandomAccess
