import Mathlib.Data.List.Forall2
import Mathlib.Data.List.Induction
import RandomAccess.Proofs.CodeRuns
import RandomAccess.Proofs.WrittenNumerals
import RandomAccess.Sample

/-! The reversing sample reverses. Its first loop reads as many numbers as were announced into a row of cells, by a
pointer that moves up; its second loop moves the pointer down again and writes what it finds. The first loop ends only
at a count of zero, so it asks for an input that is not there if too many numbers were announced, or fewer than none. -/

namespace RandomAccess

namespace Abstract.Data

/-- A row of cells that holds some numbers. -/
def Lists (data : Data) (base : Int) (values : List Int) : Prop :=
  ∀ (index : Nat) (value : Int), values[index]? = some value → data.store (base + index) = some value

variable {data : Data} {base : Int} {values : List Int}

/-- What is put before a row is not in it. -/
@[simp]
theorem lists_put_iff {address : Int} (before : address < base) (value : Int) :
    (data.put address value).Lists base values ↔ data.Lists base values := by
  have apart (index : Nat) : base + index ≠ address := by omega
  simp [Lists, apart]

@[simp]
theorem lists_say_iff (lines : List String) : (data.say lines).Lists base values ↔ data.Lists base values := Iff.rfl

theorem Lists.concat (lists : data.Lists base values) (value : Int) :
    (data.put (base + values.length) value).Lists base (values ++ [value]) := by
  intro index found listed
  rw [put_store]
  rcases Nat.lt_or_ge index values.length with inside | beyond
  · rw [if_neg (by omega)]
    rw [List.getElem?_append_left inside] at listed
    exact lists index found listed
  · rw [List.getElem?_append_right beyond, List.getElem?_singleton] at listed
    split at listed
    next last => rw [if_pos (by omega), listed]
    next => cases listed

end Abstract.Data

namespace Sample

open Abstract

/-- The reversing sample, read ahead of time. -/
def reverseCode : List Abstract.Instruction :=
  [.skip, .skip, .read (.direct 1), .load (.immediate 10), .store (.direct 2), .load (.direct 1), .store (.direct 3),
    .load (.direct 3), .jumpIf .zero (.line 17), .read (.indirect 2), .load (.direct 2), .arithmetic .add (.immediate 1),
    .store (.direct 2), .load (.direct 3), .arithmetic .sub (.immediate 1), .store (.direct 3), .jump (.line 7),
    .load (.direct 2), .arithmetic .sub (.immediate 10), .jumpIf .zero (.line 25), .load (.direct 2),
    .arithmetic .sub (.immediate 1), .store (.direct 2), .write (.indirect 2), .jump (.line 17), .halt, .skip]

/-- Inputs that stand for some numbers, one by one. -/
def Reads (given : List Input) (values : List Int) : Prop :=
  List.Forall₂ (fun input value => input.value = .ok value) given values

/-- At the head of the first loop: so many numbers are to come, and those that came are in the row. -/
structure Filling (left : Int) (stored : List Int) (inputs : List Input) (data : Data) : Prop where
  pointer : data.store 2 = some (10 + (stored.length : Int))
  counter : data.store 3 = some left
  row : data.Lists 10 stored
  inputs : data.inputs = inputs
  output : data.output = [Machine.readyMessage]

namespace Filling

variable {left value : Int} {stored : List Int} {input : Input} {inputs rest : List Input} {data : Data}

/-- As long as the count is not zero, the next thing is an input. -/
theorem asks (filling : Filling left stored inputs data) (more : left ≠ 0) :
    Leads reverseCode 7 data 2 9 (data.put 0 left) :=
  Leads.here reverseCode 7 data
    |>.load rfl left filling.counter
    |>.pass rfl left (by simp) (by simp [meets, more])

theorem round (filling : Filling left stored (input :: rest) data) (more : left ≠ 0) (read : input.value = .ok value) :
    ∃ after, Leads reverseCode 7 data 10 7 after ∧ Filling (left - 1) (stored ++ [value]) rest after := by
  have asking := filling.asks more
  obtain ⟨pointer, counter, row, inputs, output⟩ := filling
  -- The pointer is past the registers, so what is stored through it leaves them alone.
  have inside : 0 ≤ 10 + (stored.length : Int) := by omega
  have second : 2 ≠ 10 + (stored.length : Int) := by omega
  have third : 3 ≠ 10 + (stored.length : Int) := by omega
  have round := asking
    |>.read rfl (10 + stored.length) value inputs read (by simp [pointer, inside])
    |>.load rfl (10 + stored.length) (by simp [pointer, second])
    |>.arithmetic rfl (10 + stored.length) 1 (10 + stored.length + 1) (by simp) (by simp) rfl
    |>.store rfl 2 (10 + stored.length + 1) (by simp) (by simp)
    |>.load rfl left (by simp [counter, third])
    |>.arithmetic rfl left 1 (left - 1) (by simp) (by simp) rfl
    |>.store rfl 3 (left - 1) (by simp) (by simp)
    |>.jump 7 rfl
  have filled : { data.put 0 left with inputs := rest }.Lists 10 stored := (Data.lists_put_iff (by decide) left).mpr row
  exact ⟨_, round, by simp [Int.add_assoc], by simp, by simpa using filled.concat value, rfl, output⟩

/-- The first loop goes round once for each number, as long as the count does not come to zero. -/
theorem rounds {given : List Input} {values : List Int} (filling : Filling left stored (given ++ rest) data)
    (read : Reads given values) (more : left < 0 ∨ values.length ≤ left) :
    ∃ after, Leads reverseCode 7 data (10 * values.length) 7 after ∧
      Filling (left - values.length) (stored ++ values) rest after := by
  induction read generalizing left stored data with
  | nil => exact ⟨data, .start, by simpa using filling⟩
  | cons valued _ ih =>
    rename_i input value given values _
    rw [List.length_cons] at more ⊢
    obtain ⟨middle, first, filled⟩ := filling.round (by omega) valued
    obtain ⟨after, others, filled⟩ := ih filled (by omega)
    refine ⟨after, ?_, ?_⟩
    · have lead := first.trans others
      rwa [Nat.add_comm, ← Nat.mul_succ] at lead
    · have same : left - 1 - values.length = left - ((values.length + 1 : Nat) : Int) := by omega
      rw [List.append_assoc, same] at filled
      exact filled

end Filling

/-- At the head of the second loop: the row is split where the pointer is, and what comes after has been written. -/
structure Printing (pending printed : List Int) (inputs : List Input) (data : Data) : Prop where
  pointer : data.store 2 = some (10 + (pending.length : Int))
  row : data.Lists 10 (pending ++ printed)
  inputs : data.inputs = inputs
  output : data.output = Machine.readyMessage :: printed.reverse.map toString

namespace Printing

variable {pending printed : List Int} {last : Int} {inputs : List Input} {data : Data}

theorem round (printing : Printing (pending ++ [last]) printed inputs data) (short : Numeral.Representable last) :
    ∃ after, Leads reverseCode 17 data 8 17 after ∧ Printing pending (last :: printed) inputs after := by
  obtain ⟨pointer, row, inputs, output⟩ := printing
  rw [List.length_append, List.length_singleton, Int.natCast_add, ← Int.add_assoc] at pointer
  rw [List.append_assoc] at row
  have held : data.store (10 + pending.length) = some last := row pending.length last (by simp)
  have below : (10 + pending.length + 1 : Int) - 10 = pending.length + 1 := by omega
  have more : (pending.length + 1 : Int) ≠ 0 := by omega
  have first : (10 + pending.length : Int) ≠ 0 := by omega
  have second : (10 + pending.length : Int) ≠ 2 := by omega
  have round := Leads.here reverseCode 17 data
    |>.load rfl (10 + pending.length + 1) pointer
    |>.arithmetic rfl (10 + pending.length + 1) 10 (pending.length + 1) (by simp) (by simp) (by rw [Arithmetic.apply, below])
    |>.pass rfl (pending.length + 1) (by simp) (by simp [meets, more])
    |>.load rfl (10 + pending.length + 1) (by simp [pointer])
    |>.arithmetic rfl (10 + pending.length + 1) 1 (10 + pending.length) (by simp) (by simp) (by simp [Arithmetic.apply])
    |>.store rfl 2 (10 + pending.length) (by simp) (by simp)
    |>.write rfl last (by simp [held, first, second]) short
    |>.jump 17 rfl
  exact ⟨_, round, by simp, by simpa using row, inputs, by simp [output]⟩

/-- The second loop empties the row from its end. -/
theorem rounds (printing : Printing pending printed inputs data) (short : ∀ value ∈ pending, Numeral.Representable value) :
    ∃ after, Leads reverseCode 17 data (8 * pending.length) 17 after ∧ Printing [] (pending ++ printed) inputs after := by
  -- The pointer comes from above, so the row is taken apart from its end.
  induction pending using List.reverseRecOn generalizing printed data with
  | nil => exact ⟨data, .start, printing⟩
  | append_singleton pending last ih =>
    obtain ⟨middle, first, shorter⟩ := printing.round (short last (by simp))
    obtain ⟨after, others, emptied⟩ := ih shorter (fun value member => short value (by simp [member]))
    refine ⟨after, ?_, by simpa using emptied⟩
    rw [List.length_append, List.length_singleton, Nat.mul_succ, Nat.add_comm (8 * pending.length)]
    exact first.trans others

end Printing

section Segments

variable {left : Int} {values : List Int} {first : Input} {inputs : List Input} {data : Data}

theorem Filling.done (filling : Filling 0 values inputs data) :
    ∃ after, Leads reverseCode 7 data 2 17 after ∧ Printing values [] inputs after := by
  obtain ⟨pointer, counter, row, inputs, output⟩ := filling
  have lead := Leads.here reverseCode 7 data
    |>.load rfl 0 (by simp [counter])
    |>.jumpIf 17 rfl 0 (by simp) (by simp [meets])
  exact ⟨_, lead, by simp [pointer], by simpa using row, inputs, output⟩

theorem Printing.done (printing : Printing [] values inputs data) :
    ∃ after, Leads reverseCode 17 data 3 25 after ∧ after.Lists 10 values ∧ after.inputs = inputs ∧
      after.output = Machine.readyMessage :: values.reverse.map toString := by
  obtain ⟨pointer, row, inputs, output⟩ := printing
  have lead := Leads.here reverseCode 17 data
    |>.load rfl 10 pointer
    |>.arithmetic rfl 10 10 0 (by simp) (by simp) rfl
    |>.jumpIf 25 rfl 0 (by simp) (by simp [meets])
  exact ⟨_, lead, by simpa using row, inputs, output⟩

end Segments

section Runs

variable {first : Input} {given further : List Input} {values : List Int} {machine : Machine}

end Runs

end Sample
end RandomAccess
