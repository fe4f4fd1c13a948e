import RandomAccess.Proofs.SourceRoundTrip

/-! All the ways to write a statement. A text is split into a keyword and operands that have no blanks and no marks in
them, and every text is a layout of what it is split into: indentation, the keyword, the operands with blanks anywhere
among them, and a comment. So splitting and laying out are inverse to each other. -/

namespace RandomAccess

namespace Text

/-- Blanks put into a text, anywhere. -/
inductive Spread : Text → Text → Prop where
  | nil : Spread [] []
  | keep {text spaced : Text} (c : Char) (spread : Spread text spaced) : Spread (c :: text) (c :: spaced)
  | gap {text spaced : Text} {c : Char} (blank : isBlank c = true) (spread : Spread text spaced) : Spread text (c :: spaced)

variable {text spaced comment : Text}

theorem squeeze_cons (c : Char) (text : Text) : squeeze (c :: text) = if isBlank c then squeeze text else c :: squeeze text := by
  cases blank : isBlank c <;> simp [squeeze, blank]

namespace Spread

theorem squeeze_eq (spread : Spread text spaced) : squeeze spaced = squeeze text := by
  induction spread with
  | nil => rfl
  | keep c _ ih => rw [squeeze_cons, squeeze_cons, ih]
  | gap blank _ ih => rw [squeeze_cons, if_pos blank, ih]

theorem mem_or_blank (spread : Spread text spaced) {c : Char} (member : c ∈ spaced) : c ∈ text ∨ isBlank c = true := by
  induction spread with
  | nil => cases member
  | keep d _ ih =>
    rcases List.mem_cons.mp member with same | later
    · exact .inl (same ▸ List.mem_cons_self)
    · exact (ih later).imp_left (List.mem_cons_of_mem d)
  | gap blank _ ih =>
    rcases List.mem_cons.mp member with same | later
    · exact .inr (same ▸ blank)
    · exact ih later

end Spread

/-- Every text is its visible part with blanks put in. -/
theorem spread_squeeze (text : Text) : Spread (squeeze text) text := by
  induction text with
  | nil => exact .nil
  | cons c text ih =>
    rw [squeeze_cons]
    split
    next blank => exact .gap blank ih
    next => exact .keep c ih

theorem spread_refl (text : Text) : Spread text text := by
  induction text with
  | nil => exact .nil
  | cons c text ih => exact .keep c ih

/-- A comment, or none. -/
inductive Comment : Text → Prop where
  | none : Comment []
  | some (remark : Text) : Comment (';' :: remark)

theorem Comment.before_append (remarked : Comment comment) (code : ';' ∉ text) : before ';' (text ++ comment) = text := by
  cases remarked with
  | none => rw [List.append_nil, before_eq_self code]
  | some remark => exact before_append_mark code remark

theorem exists_comment (text : Text) : ∃ comment, Comment comment ∧ before ';' text ++ comment = text := by
  refine ⟨text.dropWhile (· != ';'), ?_, List.takeWhile_append_dropWhile⟩
  have stopped := List.head?_dropWhile_not (· != ';') text
  cases rest : text.dropWhile (· != ';') with
  | nil => exact .none
  | cons c remark =>
    rw [rest] at stopped
    obtain rfl : c = ';' := by simpa using stopped
    exact .some remark

end Text

namespace Statement

/-- The statements that a text can be split into. -/
structure Plain (statement : Statement) : Prop where
  keyword_clear : ∀ c ∈ statement.keyword, Text.isBlank c = false ∧ c ≠ ';'
  operand_clear : ∀ operand ∈ statement.operands, ∀ c ∈ operand, Text.isBlank c = false ∧ c ≠ ',' ∧ c ≠ ';'
  operands_shown : statement.operands ≠ [[]]
  operands_follow : statement.keyword = [] → statement.operands = []

/-- Operands as they follow a keyword: between commas, with a blank in front of them, and blanks anywhere among them. -/
inductive Arguments : List Text → Text → Prop where
  | missing : Arguments [] []
  | given {operands : List Text} {gap spaced : Text} (nonempty : operands ≠ []) (blank : Text.Blank gap) (apart : gap ≠ [])
      (spread : Text.Spread ([','].intercalate operands) spaced) : Arguments operands (gap ++ spaced)

/-- The layouts of a statement as text. -/
inductive LaidOut (statement : Statement) : Text → Prop where
  | intro {indent arguments atEnd comment : Text} (indented : Text.Blank indent)
      (follow : Arguments statement.operands arguments) (ended : Text.Blank atEnd) (remarked : Text.Comment comment) :
      LaidOut statement (indent ++ (statement.keyword ++ (arguments ++ (atEnd ++ comment))))

/-- Whatever follows a keyword up to the comment is squeezed and divided at its commas. -/
theorem ofText_tail {indent keyword tail comment : Text} (indented : Text.Blank indent)
    (clear : ∀ c ∈ keyword, Text.isBlank c = false ∧ c ≠ ';') (nonempty : keyword ≠ [])
    (ends : ∀ c, tail.head? = some c → Text.isBlank c = true) (code : ';' ∉ tail) (remarked : Text.Comment comment) :
    ofText (indent ++ (keyword ++ (tail ++ comment))) = ⟨keyword, operandsOf (Text.squeeze tail)⟩ := by
  have unmarked : ';' ∉ indent ++ (keyword ++ tail) := by
    have outside : ';' ∉ indent := Line.not_mem_of_blank indented (by decide)
    have inside : ';' ∉ keyword := fun member => (clear ';' member).2 rfl
    simp [outside, inside, code]
  have body : Text.before ';' (indent ++ (keyword ++ (tail ++ comment))) = indent ++ (keyword ++ tail) := by
    rw [← remarked.before_append unmarked]
    simp only [List.append_assoc]
  -- The blanks at the end are gone before the keyword is split off, and maybe all of the tail with them.
  have trimmed : Text.trim (indent ++ (keyword ++ tail)) = keyword ++ Text.trimRight tail := by
    rw [Text.trim_blank_append indented, Text.trim, Text.trimLeft_eq_self, Text.trimRight_append_of_visible]
    · intro c last
      exact (clear c (List.mem_of_getLast? last)).1
    · intro c begins
      rw [List.head?_append_of_ne_nil _ nonempty] at begins
      exact (clear c (List.mem_of_head? begins)).1
  have all : ∀ c ∈ keyword, (!Text.isBlank c) = true := fun c member => by simp [(clear c member).1]
  have stops : ∀ c, (Text.trimRight tail).head? = some c → (!Text.isBlank c) = false := by
    intro c begins
    obtain ⟨gap, whole⟩ := Text.trimRight_isPrefix tail
    have same := congrArg List.head? whole
    rw [List.head?_append, begins, Option.some_or] at same
    simp [ends c same.symm]
  simp only [ofText, body, trimmed, Text.takeWhile_run all stops, Text.dropWhile_run all stops, Text.squeeze_trimRight]

theorem ofText_blank {gap comment : Text} (blank : Text.Blank gap) (remarked : Text.Comment comment) :
    ofText (gap ++ comment) = ⟨[], []⟩ := by
  have unmarked : ';' ∉ gap := Line.not_mem_of_blank blank (by decide)
  simp only [ofText, remarked.before_append unmarked, Text.trim, Text.trimLeft_of_blank blank]
  rfl

namespace Arguments

variable {operands : List Text} {arguments : Text} (follow : Arguments operands arguments)
include follow

theorem isBlank_head? {c : Char} (first : arguments.head? = some c) : Text.isBlank c = true := by
  cases follow with
  | missing => cases first
  | given _ blank apart _ =>
    rw [List.head?_append_of_ne_nil _ apart] at first
    exact blank c (List.mem_of_head? first)

variable (clear : ∀ c ∈ [','].intercalate operands, Text.isBlank c = false ∧ c ≠ ';')
include clear

theorem code : ';' ∉ arguments := by
  intro member
  cases follow with
  | missing => cases member
  | given _ blank _ spread =>
    rcases List.mem_append.mp member with gap | spaced
    · exact Line.not_mem_of_blank blank (by decide) gap
    · rcases spread.mem_or_blank spaced with listed | blank
      · exact (clear ';' listed).2 rfl
      · cases blank

theorem squeeze_eq : Text.squeeze arguments = [','].intercalate operands := by
  cases follow with
  | missing => rfl
  | given _ blank _ spread =>
    rw [blank.squeeze_append, spread.squeeze_eq]
    exact Text.squeeze_eq_self_iff.mpr fun c member => (clear c member).1

end Arguments

variable {statement : Statement}

theorem Plain.listed_clear (plain : statement.Plain) {c : Char} (member : c ∈ statement.listed) :
    Text.isBlank c = false ∧ c ≠ ';' := by
  rcases mem_intercalate member with same | ⟨operand, among, member⟩
  · rw [same]
    decide
  · obtain ⟨visible, _, code⟩ := plain.operand_clear operand among c member
    exact ⟨visible, code⟩

theorem Plain.operandsOf_listed (plain : statement.Plain) : operandsOf statement.listed = statement.operands := by
  apply operandsOf_intercalate _ plain.operands_shown
  intro operand among member
  exact (plain.operand_clear operand among ',' member).2.1 rfl

/-- Every layout of a statement is split into that statement. -/
theorem LaidOut.ofText_eq {text : Text} (laid : statement.LaidOut text) (plain : statement.Plain) : ofText text = statement := by
  cases laid with
  | @intro indent arguments atEnd comment indented follow ended remarked =>
    by_cases empty : statement.keyword = []
    · obtain ⟨keyword, operands⟩ := statement
      obtain rfl : keyword = [] := empty
      obtain rfl : operands = [] := plain.operands_follow rfl
      cases follow with
      | missing =>
        have blank : Text.Blank (indent ++ atEnd) := by
          intro c member
          exact (List.mem_append.mp member).elim (indented c) (ended c)
        rw [List.nil_append, List.nil_append, ← List.append_assoc, ofText_blank blank remarked]
      | given nonempty => exact absurd rfl nonempty
    · have clear : ∀ c ∈ [','].intercalate statement.operands, Text.isBlank c = false ∧ c ≠ ';' := fun _ => plain.listed_clear
      have code : ';' ∉ arguments ++ atEnd := by
        simp [follow.code clear, Line.not_mem_of_blank ended (show Text.isBlank ';' = false by decide)]
      have ends : ∀ c, (arguments ++ atEnd).head? = some c → Text.isBlank c = true := by
        intro c first
        rw [List.head?_append, Option.or_eq_some_iff] at first
        rcases first with inside | ⟨_, outside⟩
        · exact follow.isBlank_head? inside
        · exact ended c (List.mem_of_head? outside)
      rw [← List.append_assoc arguments, ofText_tail indented plain.keyword_clear empty ends code remarked,
        Text.squeeze_append, ended.squeeze_eq, List.append_nil, follow.squeeze_eq clear, ← listed, plain.operandsOf_listed]

theorem mem_operandsOf {text operand : Text} (among : operand ∈ operandsOf text) :
    ',' ∉ operand ∧ ∀ c ∈ operand, c ∈ text := by
  unfold operandsOf at among
  split at among
  next => cases among
  next =>
    refine ⟨not_mem_of_mem_splitOn among, ?_⟩
    intro c member
    have kept := isInfix_intercalate ',' among
    rw [List.intercalate_splitOn] at kept
    exact kept.subset member

theorem operandsOf_shown (text : Text) : operandsOf text ≠ [[]] := by
  intro alone
  unfold operandsOf at alone
  split at alone
  next => cases alone
  next shown =>
    have joined := congrArg [','].intercalate alone
    rw [List.intercalate_splitOn] at joined
    exact shown (by simp [joined])

section OfText

/-- What stands before the comment of a text, without the blanks around it. -/
def body (text : Text) : Text :=
  Text.trim (Text.before ';' text)

/-- What follows the keyword of a text, up to the comment. -/
def tail (text : Text) : Text :=
  (body text).dropWhile (!Text.isBlank ·)

variable (text : Text)

theorem ofText_keyword_append_tail : (ofText text).keyword ++ tail text = body text :=
  List.takeWhile_append_dropWhile

theorem ofText_operands : (ofText text).operands = operandsOf (Text.squeeze (tail text)) := rfl

theorem isBlank_head?_tail {c : Char} (first : (tail text).head? = some c) : Text.isBlank c = true := by
  have stopped := List.head?_dropWhile_not (!Text.isBlank ·) (body text)
  have same : ((body text).dropWhile (!Text.isBlank ·)).head? = some c := first
  simpa [same] using stopped

/-- A tail is more than blanks, since the blanks at the end were trimmed off. -/
theorem squeeze_tail_ne_nil (shown : tail text ≠ []) : Text.squeeze (tail text) ≠ [] := by
  intro hidden
  have last := List.getLast?_eq_some_getLast shown
  have blank : Text.isBlank ((tail text).getLast shown) = true := by
    have all := List.filter_eq_nil_iff.mp hidden _ (List.getLast_mem shown)
    simpa using all
  have visible : Text.isBlank ((tail text).getLast shown) = false := by
    apply @Text.isBlank_getLast?_trim (Text.before ';' text)
    rw [← body, ← ofText_keyword_append_tail, List.getLast?_append, last, Option.some_or]
  rw [blank] at visible
  cases visible

theorem arguments_tail : Arguments (ofText text).operands (tail text) := by
  cases rest : tail text with
  | nil =>
    rw [ofText_operands, rest]
    exact .missing
  | cons c spaced =>
    have blank : Text.isBlank c = true := isBlank_head?_tail text (by rw [rest]; rfl)
    have hidden : Text.squeeze (tail text) = Text.squeeze spaced := by rw [rest, Text.squeeze_cons, if_pos blank]
    have shown : Text.squeeze spaced ≠ [] := by
      rw [← hidden]
      exact squeeze_tail_ne_nil text (by simp [rest])
    have operands : (ofText text).operands = (Text.squeeze spaced).splitOn ',' := by
      rw [ofText_operands, hidden, operandsOf, if_neg (by simpa using shown)]
    -- The first blank sets the operands apart from the keyword, and all others are spread among them.
    apply @Arguments.given _ [c] spaced
    · rw [operands]
      exact List.splitOn_ne_nil ',' _
    · simpa [Text.Blank] using blank
    · simp
    · rw [operands, List.intercalate_splitOn]
      exact Text.spread_squeeze spaced

/-- Every text is a layout of the statement that it is split into. -/
theorem ofText_laidOut : (ofText text).LaidOut text := by
  obtain ⟨comment, remarked, whole⟩ := Text.exists_comment text
  obtain ⟨indent, atEnd, indented, ended, trimmed⟩ := Text.exists_trim_append (Text.before ';' text)
  have parts : indent ++ ((ofText text).keyword ++ (tail text ++ (atEnd ++ comment))) = text := by
    calc indent ++ ((ofText text).keyword ++ (tail text ++ (atEnd ++ comment)))
        = indent ++ (((ofText text).keyword ++ tail text) ++ atEnd) ++ comment := by simp only [List.append_assoc]
      _ = Text.before ';' text ++ comment := by rw [ofText_keyword_append_tail, body, trimmed]
      _ = text := whole
  have laid : (ofText text).LaidOut (indent ++ ((ofText text).keyword ++ (tail text ++ (atEnd ++ comment)))) :=
    .intro indented (arguments_tail text) ended remarked
  rwa [parts] at laid

theorem code_of_mem_body {c : Char} (member : c ∈ body text) : c ≠ ';' := by
  intro same
  rw [same] at member
  exact Text.not_mem_before ';' text (Text.mem_of_mem_trim member)

theorem tail_eq_nil (empty : (ofText text).keyword = []) : tail text = [] := by
  have same : tail text = body text := by
    rw [← ofText_keyword_append_tail, empty, List.nil_append]
  cases rest : tail text with
  | nil => rfl
  | cons c others =>
    have first : (tail text).head? = some c := by rw [rest]; rfl
    have blank := isBlank_head?_tail text first
    rw [same] at first
    rw [Text.isBlank_head?_trim first] at blank
    cases blank

theorem ofText_plain : (ofText text).Plain := by
  constructor
  · intro c member
    constructor
    · have passed := List.all_eq_true.mp List.all_takeWhile c member
      simpa using passed
    · apply code_of_mem_body text
      rw [← ofText_keyword_append_tail]
      exact List.mem_append_left _ member
  · intro operand among c member
    obtain ⟨single, kept⟩ := mem_operandsOf among
    obtain ⟨inside, visible⟩ := List.mem_filter.mp (kept c member)
    refine ⟨by simpa using visible, ?_, ?_⟩
    · intro comma
      rw [comma] at member
      exact single member
    · apply code_of_mem_body text
      rw [← ofText_keyword_append_tail]
      exact List.mem_append_right _ inside
  · exact operandsOf_shown (Text.squeeze (tail text))
  · intro empty
    rw [ofText_operands, tail_eq_nil text empty]
    rfl

end OfText

theorem laidOut_write (statement : Statement) {gap : Gap} (apart : gap.text ≠ []) : statement.LaidOut (statement.write gap) := by
  have follow : Arguments statement.operands (statement.arguments gap) := by
    unfold arguments
    split
    next empty =>
      rw [empty]
      exact .missing
    next _ _ held => exact .given (by simp [held]) gap.blank apart (Text.spread_refl _)
  have laid : statement.LaidOut ([] ++ (statement.keyword ++ (statement.arguments gap ++ ([] ++ [])))) :=
    .intro (by simp [Text.Blank]) follow (by simp [Text.Blank]) .none
  rwa [List.nil_append, List.nil_append, List.append_nil, ← write] at laid

/-- A text is split into a plain statement, and the texts that are split into it are its layouts. So a statement that is
written out again is split as before. -/
theorem ofText_exact :
    (∀ text, (ofText text).Plain) ∧
    (∀ statement : Statement, statement.Plain → ∀ text, ofText text = statement ↔ statement.LaidOut text) ∧
    ∀ (text : Text) (gap : Gap), gap.text ≠ [] → ofText ((ofText text).write gap) = ofText text := by
  refine ⟨ofText_plain, ?_, ?_⟩
  · intro statement plain text
    constructor
    · intro split
      rw [← split]
      exact ofText_laidOut text
    · intro laid
      exact laid.ofText_eq plain
  · intro text gap apart
    exact (laidOut_write (ofText text) apart).ofText_eq (ofText_plain text)

/-- An empty operand, a wide space inside another, and a comment with marks in it. -/
theorem ofText_exact_of_blanks_inside :
    Plain ⟨"SJ".toList, ["1".toList, [], "done".toList]⟩ ∧
    LaidOut ⟨"SJ".toList, ["1".toList, [], "done".toList]⟩ "\tSJ 1 ,,do\u3000ne ;a,b;".toList ∧
    ofText "\tSJ 1 ,,do\u3000ne ;a,b;".toList = ⟨"SJ".toList, ["1".toList, [], "done".toList]⟩ ∧
    ofText (write ⟨[' '], by decide, by decide⟩ (ofText "\tSJ 1 ,,do\u3000ne ;a,b;".toList)) =
      ofText "\tSJ 1 ,,do\u3000ne ;a,b;".toList := by
  obtain ⟨_, exact, again⟩ := ofText_exact
  have plain : Plain ⟨"SJ".toList, ["1".toList, [], "done".toList]⟩ := ofText_plain "SJ 1,,done".toList
  have spread : Text.Spread ([','].intercalate ["1".toList, [], "done".toList]) "1 ,,do\u3000ne ".toList :=
    Text.spread_squeeze "1 ,,do\u3000ne ".toList
  have follow : Arguments ["1".toList, [], "done".toList] " 1 ,,do\u3000ne ".toList :=
    @Arguments.given _ [' '] _ (by decide) (by decide) (by decide) spread
  have laid : LaidOut ⟨"SJ".toList, ["1".toList, [], "done".toList]⟩ "\tSJ 1 ,,do\u3000ne ;a,b;".toList :=
    @LaidOut.intro ⟨"SJ".toList, ["1".toList, [], "done".toList]⟩ ['\t'] _ [] _ (by decide) follow (by decide)
      (.some "a,b;".toList)
  exact ⟨plain, laid, (exact _ plain _).mpr laid, again _ _ (by decide)⟩

end Statement
end RandomAccess
