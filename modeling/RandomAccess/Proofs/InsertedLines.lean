import Mathlib.Data.List.InsertIdx
import Mathlib.Order.Bounds.Image
import RandomAccess.Proofs.LabelRelocation
import RandomAccess.Proofs.LoadedLines
import RandomAccess.Proofs.SourceRoundTrip

/-! A source with one more line that holds nothing but blanks and a comment. It loads when the other does. Every
later line has moved on by one, and so has every label that leads to one of them. -/

namespace RandomAccess

namespace Line

/-- A line with neither label nor instruction. -/
inductive Idle : Text → Prop where
  | blank (gap : Gap) : Idle gap.text
  | comment (gap : Gap) {comment : Text} (within : '\n' ∉ comment) : Idle (gap.text ++ ';' :: comment)

theorem Idle.newline_not_mem {raw : Text} (idle : Idle raw) : '\n' ∉ raw := by
  cases idle with
  | blank gap => exact gap.within
  | comment gap within => simp [gap.within, within]

theorem Idle.parts {raw : Text} (idle : Idle raw) : parts raw = (none, []) := by
  have blank (gap : Gap) : Line.parts gap.text = (none, []) := by
    have alone := parts_blank_append gap.blank []
    rwa [List.append_nil] at alone
  cases idle with
  | blank gap => exact blank gap
  | comment gap within =>
    rw [parts_append_comment (gap.not_mem (by decide))]
    exact blank gap

/-- A line that can be read, at whatever index it stands. -/
def Readable (raw : Text) : Prop :=
  ∀ label, (parts raw).1 = some label → validLabel label = true

theorem parse_eq_ok_iff {index : Nat} {raw : Text} {line : Line} :
    parse index raw = .ok line ↔ Readable raw ∧ line = ⟨index + 1, dropReturn raw, (parts raw).1, (parts raw).2⟩ := by
  rw [parse_eq, parts_dropReturn, Readable]
  cases (parts raw).1 with
  | none => simp [@eq_comm _ line]
  | some label => cases valid : validLabel label <;> simp [Option.filter_some, valid, @eq_comm _ line]

theorem parse_all_of_readable {raws : List Text} (readable : ∀ raw ∈ raws, Readable raw) (offset : Nat) :
    ∃ lines, (raws.zipIdx offset).mapM (fun (raw, index) => parse index raw) = .ok lines := by
  induction raws generalizing offset with
  | nil => exact ⟨[], rfl⟩
  | cons raw raws ih =>
    rw [List.forall_mem_cons] at readable
    obtain ⟨rest, parsed⟩ := ih readable.2 (offset + 1)
    simp only [List.zipIdx_cons, List.mapM_cons, bind_eq_ok]
    exact ⟨_, _, parse_eq_ok_iff.mpr ⟨readable.1, rfl⟩, rest, parsed, rfl⟩

end Line

namespace Program

theorem load_iff_readable {source : Text} :
    (∃ program, load source = .ok program) ↔ ∀ raw ∈ source.splitOn '\n', Line.Readable raw := by
  constructor
  · rintro ⟨program, loaded⟩ raw member
    obtain ⟨index, found⟩ := List.mem_iff_getElem?.mp member
    obtain ⟨line, _, parsed⟩ := (load_eq_ok_iff.mp loaded).2 index raw found
    exact (Line.parse_eq_ok_iff.mp parsed).1
  · intro readable
    obtain ⟨lines, parsed⟩ := Line.parse_all_of_readable readable 0
    simp only [load, bind_eq_ok]
    exact ⟨_, lines, parsed, rfl⟩

/-- Each loaded line is its source line, taken apart. -/
theorem load_line {source : Text} {program : Program} (loaded : load source = .ok program) (index : Nat) :
    program.lines[index]? = ((source.splitOn '\n')[index]?).map fun raw =>
      ⟨index + 1, Line.dropReturn raw, (Line.parts raw).1, (Line.parts raw).2⟩ := by
  obtain ⟨size, each⟩ := load_eq_ok_iff.mp loaded
  cases found : (source.splitOn '\n')[index]? with
  | none =>
    have beyond : program.size ≤ index := by
      rw [size]
      exact List.getElem?_eq_none_iff.mp found
    rw [Array.getElem?_eq_none beyond]
    rfl
  | some raw =>
    obtain ⟨line, held, parsed⟩ := each index raw found
    rw [held, (Line.parse_eq_ok_iff.mp parsed).2]
    rfl

theorem load_parts {source : Text} {program : Program} (loaded : load source = .ok program) (index : Nat) :
    program.lines[index]?.map (fun line => (line.label?, line.text)) = ((source.splitOn '\n')[index]?).map Line.parts := by
  rw [load_line loaded, Option.map_map]
  rfl

end Program

/-- Where an index goes when a line is put in before it. -/
def shift (index : Nat) (pc : Int) : Int :=
  if pc < index then pc else pc + 1

def insertLine (source : Text) (index : Nat) (line : Text) : Text :=
  ['\n'].intercalate ((source.splitOn '\n').insertIdx index line)

theorem splitOn_insertLine {line : Text} (within : '\n' ∉ line) (source : Text) (index : Nat) :
    (insertLine source index line).splitOn '\n' = (source.splitOn '\n').insertIdx index line := by
  apply List.splitOn_intercalate
  · intro raw member
    rcases List.eq_or_mem_of_mem_insertIdx member with rfl | old
    · exact within
    · exact not_mem_of_mem_splitOn old
  · intro none
    have inside := List.subset_insertIdx (source.splitOn '\n') index line
    rw [none] at inside
    exact List.splitOn_ne_nil '\n' source (List.subset_nil.mp inside)

/-- Where the line of a number goes. -/
def moved (index line : Nat) : Nat :=
  if line < index then line else line + 1

theorem shift_natCast (index line : Nat) : shift index line = moved index line := by
  simp only [shift, moved, Int.ofNat_lt]
  split <;> simp

theorem monotone_moved (index : Nat) : Monotone (moved index) := by
  intro first second order
  simp only [moved]
  split <;> split <;> omega

theorem getElem?_moved (raws : List Text) (index line : Nat) (raw : Text) :
    (raws.insertIdx index raw)[moved index line]? = raws[line]? := by
  unfold moved
  split
  next before => rw [List.getElem?_insertIdx_of_lt before]
  next behind =>
    rw [List.getElem?_insertIdx_of_gt (by omega)]
    rfl

theorem eq_moved_of_ne {index line : Nat} (other : line ≠ index) : ∃ earlier, line = moved index earlier := by
  by_cases before : line < index
  · exact ⟨line, by simp [moved, before]⟩
  · have behind : ¬ line - 1 < index := by omega
    refine ⟨line - 1, ?_⟩
    simp only [moved, behind, if_false]
    omega

namespace Program

/-- What a line put in before an index does to a program. -/
structure Inserted (index : Nat) (before after : Program) : Prop where
  text : ∀ pc, (after.line? (shift index pc)).map Line.text = (before.line? pc).map Line.text
  idle : (after.line? index).map Line.text = some []
  relocates : before.Relocates (shift index) after

section Load

variable {source : Text} {program : Program} (loaded : load source = .ok program)
include loaded

theorem load_text (index : Nat) :
    (program.line? index).map Line.text = ((source.splitOn '\n')[index]?).map fun raw => (Line.parts raw).2 := by
  have parts := congrArg (Option.map Prod.snd) (load_parts loaded index)
  simp only [Option.map_map] at parts
  rw [line?_natCast]
  exact parts

theorem mem_carriers_iff {label : Text} {index : Nat} :
    index ∈ program.carriers label ↔
      ((source.splitOn '\n')[index]?).bind (fun raw => (Line.parts raw).1) = some label := by
  have parts := congrArg (Option.bind · Prod.fst) (load_parts loaded index)
  simp only [Option.bind_map] at parts
  rw [carriers, Definition.mem_carriers, Array.getElem?_toList]
  exact Eq.congr_left parts

end Load

section Insert

variable {source line : Text} {index : Nat} {before after : Program} (idle : Line.Idle line)
  (loaded : load source = .ok before) (reloaded : load (insertLine source index line) = .ok after)
include idle loaded reloaded

theorem carriers_insertLine (label : Text) : after.carriers label = Set.image (moved index) (before.carriers label) := by
  have lines := splitOn_insertLine idle.newline_not_mem source index
  ext position
  rw [mem_carriers_iff reloaded, lines]
  constructor
  · intro found
    by_cases here : position = index
    · rw [here, List.getElem?_insertIdx_self] at found
      split at found
      · simp [idle.parts] at found
      · cases found
    · obtain ⟨earlier, rfl⟩ := eq_moved_of_ne here
      rw [getElem?_moved] at found
      exact ⟨earlier, (mem_carriers_iff loaded).mpr found, rfl⟩
  · rintro ⟨earlier, member, rfl⟩
    rw [getElem?_moved]
    exact (mem_carriers_iff loaded).mp member

theorem target?_insertLine (label : Text) : after.target? label = (before.target? label).map (moved index) := by
  have carriers := carriers_insertLine idle loaded reloaded label
  cases known : before.target? label with
  | none =>
    rw [target?_eq_none_iff] at known
    rw [Option.map_none, target?_eq_none_iff, carriers, known, Set.image_empty]
  | some target =>
    rw [target?_eq_some_iff] at known
    rw [Option.map_some, target?_eq_some_iff, carriers]
    exact (monotone_moved index).map_isGreatest known

theorem relocates_insertLine : before.Relocates (shift index) after := by
  intro label
  rw [jump, jump, target?_insertLine idle loaded reloaded]
  cases before.target? label with
  | none => rfl
  | some target =>
    simp only [Option.map_some, ← shift_natCast]
    rfl

theorem text_insertLine (pc : Int) : (after.line? (shift index pc)).map Line.text = (before.line? pc).map Line.text := by
  cases pc with
  | ofNat position =>
    have placed : shift index (Int.ofNat position) = moved index position := shift_natCast index position
    have same : before.line? (Int.ofNat position) = before.line? position := rfl
    rw [placed, same, load_text reloaded, load_text loaded, splitOn_insertLine idle.newline_not_mem, getElem?_moved]
  | negSucc position =>
    have negative : Int.negSucc position < 0 := Int.negSucc_lt_zero position
    have placed : shift index (Int.negSucc position) = Int.negSucc position := if_pos (by omega)
    simp only [placed, line?, negative, if_true]

end Insert

theorem load_insertLine {source line : Text} {index : Nat} {before : Program} (loaded : load source = .ok before)
    (inside : index ≤ (source.splitOn '\n').length) (idle : Line.Idle line) :
    ∃ after, load (insertLine source index line) = .ok after ∧ before.Inserted index after := by
  have lines := splitOn_insertLine idle.newline_not_mem source index
  have readable : ∀ raw ∈ (insertLine source index line).splitOn '\n', Line.Readable raw := by
    intro raw member
    rw [lines] at member
    rcases List.eq_or_mem_of_mem_insertIdx member with rfl | old
    · intro label named
      rw [idle.parts] at named
      cases named
    · exact load_iff_readable.mp ⟨before, loaded⟩ raw old
  obtain ⟨after, reloaded⟩ := load_iff_readable.mpr readable
  refine ⟨after, reloaded, text_insertLine idle loaded reloaded, ?_, relocates_insertLine idle loaded reloaded⟩
  rw [load_text reloaded, lines, List.getElem?_insertIdx_self, if_pos inside, Option.map_some, idle.parts]

end Program
end RandomAccess
