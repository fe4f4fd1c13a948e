import RandomAccess.Proofs.LoadOutcome

/-! One source below another. The two are loaded one after the other: the first failure is the failure of the whole, and
without one the lines of the second come after those of the first. Everything that the second source says about lines,
in numbers, in errors and in labels, is then further down by the number of lines of the first. -/

namespace RandomAccess

/-- The line with so many more lines before it. -/
def Line.lower (count : Nat) (line : Line) : Line :=
  { line with number := line.number + count }

/-- The error with so many more lines before it. -/
def Diagnostic.lower (count : Nat) (diagnostic : Diagnostic) : Diagnostic :=
  { diagnostic with line := diagnostic.line.map (· + count) }

namespace Line

variable {α β : Type}

/-- A result of reading with so many more lines before what was read. -/
def lowered (count : Nat) (place : α → β) (read : Except Diagnostic α) : Except Diagnostic β :=
  (read.map place).mapError (Diagnostic.lower count)

theorem parse_add (count index : Nat) (raw : Text) :
    parse (count + index) raw = lowered count (lower count) (parse index raw) := by
  rw [parse_eq, parse_eq]
  cases (parts (dropReturn raw)).1.filter (!validLabel ·) with
  | none =>
    have number : count + index + 1 = index + 1 + count := by omega
    rw [number]
    rfl
  | some label =>
    have line : ((count + index : Nat) : Int) + 1 = index + 1 + count := by omega
    rw [line]
    rfl

/-- Read lines one after the other, with so many lines before the first. -/
def parseAll (offset : Nat) (raws : List Text) : Except Diagnostic (List Line) :=
  (raws.zipIdx offset).mapM fun (raw, index) => parse index raw

theorem parseAll_cons (offset : Nat) (raw : Text) (raws : List Text) :
    parseAll offset (raw :: raws) = (do
      let line ← parse offset raw
      let lines ← parseAll (offset + 1) raws
      pure (line :: lines)) := by
  rw [parseAll, List.zipIdx_cons, List.mapM_cons, parseAll]

theorem parseAll_append (offset : Nat) (first second : List Text) :
    parseAll offset (first ++ second) = (do
      let lines ← parseAll offset first
      let rest ← parseAll (first.length + offset) second
      pure (lines ++ rest)) := by
  rw [parseAll, List.zipIdx_append, List.mapM_append, Nat.add_comm, parseAll, parseAll]

theorem parseAll_add (count offset : Nat) (raws : List Text) :
    parseAll (count + offset) raws = lowered count (List.map (lower count)) (parseAll offset raws) := by
  induction raws generalizing offset with
  | nil => rfl
  | cons raw raws ih =>
    rw [parseAll_cons, parseAll_cons, parse_add, Nat.add_assoc, ih]
    cases parse offset raw with
    | error diagnostic => rfl
    | ok line => cases parseAll (offset + 1) raws <;> rfl

end Line

namespace Definition

/-- Of two lists of lines, the second is asked first where a label leads. -/
theorem lookup_append (first second : List Line) (count : Nat) (label : Text) :
    (ofLines (first ++ second.map (Line.lower count))).reverse.lookup label =
      (((ofLines second).reverse.lookup label).map (· + first.length)).or ((ofLines first).reverse.lookup label) := by
  induction second using List.reverseRecOn with
  | nil => simp [ofLines]
  | append_singleton second line ih =>
    have same : (line.lower count).label? = line.label? := rfl
    rw [List.map_append, List.map_singleton, ← List.append_assoc, lookup_concat, lookup_concat, same]
    split
    · rw [List.length_append, List.length_map, Nat.add_comm, Option.map_some, Option.some_or]
    · exact ih

end Definition

namespace Program

/-- One program below another. -/
def join (first second : Program) : Program :=
  ofLines (first.lines.toList ++ second.lines.toList.map (Line.lower first.size))

theorem join_lines (first second : Program) :
    (first.join second).lines = first.lines ++ second.lines.map (Line.lower first.size) := by
  apply Array.toList_inj.mp
  rw [Array.toList_append, Array.toList_map]
  rfl

theorem target?_join (first second : Program) (label : Text) :
    (first.join second).target? label = ((second.target? label).map (· + first.size)).or (first.target? label) := by
  rw [target?_eq, target?_eq, target?_eq]
  exact Definition.lookup_append first.lines.toList second.lines.toList first.size label

theorem load_eq (source : Text) : load source = (Line.parseAll 0 (source.splitOn '\n')).map ofLines := by
  rw [load, Line.parseAll]
  rfl

/-- Loading one source below another. -/
theorem load_below (first second : Text) :
    load (first ++ '\n' :: second) = match load first with
      | .error diagnostic => .error diagnostic
      | .ok program => Line.lowered program.size program.join (load second) := by
  rw [load_eq, load_eq, load_eq, List.splitOn_append_cons_self, Line.parseAll_append, Line.parseAll_add]
  cases before : Line.parseAll 0 (first.splitOn '\n') with
  | error diagnostic => rfl
  | ok lines =>
    have length : lines.length = (first.splitOn '\n').length := (Line.parse_all_eq_ok_iff.mp before).1
    rw [← length]
    cases Line.parseAll 0 (second.splitOn '\n') with
    | error diagnostic => rfl
    | ok rest => rfl

/-- One source below another fails exactly if one of them does, with the error of the first, or with that of the second
further down. If both load, the second program comes below the first, and its labels replace those of the same name. -/
theorem load_joined (first second : Text) :
    ((∃ diagnostic, load (first ++ '\n' :: second) = .error diagnostic) ↔
      (∃ diagnostic, load first = .error diagnostic) ∨ ∃ diagnostic, load second = .error diagnostic) ∧
    (∀ diagnostic, load first = .error diagnostic → load (first ++ '\n' :: second) = .error diagnostic) ∧
    (∀ before diagnostic, load first = .ok before → load second = .error diagnostic →
      load (first ++ '\n' :: second) = .error (diagnostic.lower (first.count '\n' + 1))) ∧
    ∀ before after, load first = .ok before → load second = .ok after →
      ∃ whole, load (first ++ '\n' :: second) = .ok whole ∧
        whole.lines = before.lines ++ after.lines.map (Line.lower (first.count '\n' + 1)) ∧
        ∀ label : Text, whole.table[label]? =
          (after.table[label]?.map (· + (first.count '\n' + 1))).or before.table[label]? := by
  rw [load_below]
  cases loaded : load first with
  | error diagnostic =>
    refine ⟨⟨fun _ => .inl ⟨diagnostic, rfl⟩, fun _ => ⟨diagnostic, rfl⟩⟩, fun _ => id, nofun, nofun⟩
  | ok before =>
    rw [← load_size loaded]
    cases load second with
    | error diagnostic =>
      refine ⟨⟨fun _ => .inr ⟨diagnostic, rfl⟩, fun _ => ⟨_, rfl⟩⟩, nofun, ?_, nofun⟩
      intro _ _ same failed
      cases same
      cases failed
      rfl
    | ok after =>
      refine ⟨⟨nofun, ?_⟩, nofun, nofun, ?_⟩
      · intro failed
        rcases failed with ⟨_, impossible⟩ | ⟨_, impossible⟩ <;> cases impossible
      · intro _ _ same again
        cases same
        cases again
        exact ⟨before.join after, rfl, join_lines before after, target?_join before after⟩

/-- A label that both sources have leads into the second, further down. An error of the second is further down as well. -/
theorem load_joined_of_repeated_label :
    (∃ whole, load ("go: HALT".toList ++ '\n' :: "end:\ngo:".toList) = .ok whole ∧
      whole.table["go".toList]? = some 2 ∧ whole.table["end".toList]? = some 1 ∧
      whole.lines.toList.map Line.number = [1, 2, 3]) ∧
    load ("go: HALT".toList ++ '\n' :: "a b:".toList) = .error ⟨.invalidLabel, "Label a b is invalid", some 2⟩ := by
  let before := ofLines [⟨1, "go: HALT".toList, some "go".toList, "HALT".toList⟩]
  let after := ofLines [⟨1, "end:".toList, some "end".toList, []⟩, ⟨2, "go:".toList, some "go".toList, []⟩]
  have first : load "go: HALT".toList = .ok before := rfl
  have second : load "end:\ngo:".toList = .ok after := rfl
  have failed : load "a b:".toList = .error ⟨.invalidLabel, "Label a b is invalid", some 1⟩ := rfl
  obtain ⟨_, _, _, loads⟩ := load_joined "go: HALT".toList "end:\ngo:".toList
  obtain ⟨_, _, fails, _⟩ := load_joined "go: HALT".toList "a b:".toList
  refine ⟨?_, fails before _ first failed⟩
  obtain ⟨whole, loaded, lines, labels⟩ := loads before after first second
  refine ⟨whole, loaded, labels _, labels _, ?_⟩
  rw [lines, Array.toList_append, Array.toList_map]
  rfl

end Program
end RandomAccess
