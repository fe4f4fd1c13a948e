import Mathlib.Data.Nat.Factorial.Basic
import RandomAccess.Proofs.CodeRuns
import RandomAccess.Proofs.WrittenNumerals
import RandomAccess.Sample

/-! The factorial sample computes factorials. Its loop multiplies a product by a counter and counts down, and leaves
when the counter comes to zero: after the whole factorial if it starts above zero, and never if it starts below. What is
computed may then be too long to be written. -/

namespace RandomAccess.Sample

open Abstract

/-- The factorial sample, read ahead of time. -/
def factorialCode : List Abstract.Instruction :=
  [.skip, .skip, .read (.direct 1), .load (.immediate 1), .store (.direct 2), .store (.direct 5), .load (.direct 1),
    .store (.direct 3), .load (.immediate 0), .store (.direct 4), .subtractJump (.direct 3) (.direct 4) (.line 16),
    .load (.direct 2), .arithmetic .mult (.direct 3), .store (.direct 2), .subtractJump (.direct 3) (.direct 5) (.line 16),
    .jump (.line 11), .load (.direct 2), .write (.direct 0), .halt, .skip]

theorem decode_factorial : ((Program.load factorial.source).toOption.map fun program => decode program.lines.toList) =
    some factorialCode := by
  decide +kernel

/-- Between two rounds of the loop: what was read, the product so far and what is still to be multiplied. -/
structure Multiplying (n product left : Int) (data : Data) : Prop where
  argument : data.store 1 = some n
  product : data.store 2 = some product
  counter : data.store 3 = some left
  one : data.store 5 = some 1
  output : data.output = [Machine.readyMessage]

namespace Multiplying

variable {n product left cell amount : Int} {data : Data}

/-- The counter is lowered and the run goes on, unless that leaves zero. -/
theorem counts (multiplying : Multiplying n product left data) (index : Nat)
    (found : factorialCode[index]? = some (.subtractJump (.direct 3) (.direct cell) (.line 16)))
    (held : data.store cell = some amount) (more : left ≠ amount) :
    ∃ after, Leads factorialCode index data 1 (index + 1) after ∧ Multiplying n product (left - amount) after := by
  obtain ⟨argument, multiplied, counter, one, output⟩ := multiplying
  have counted := Leads.here factorialCode index data
    |>.subtract found 3 left amount (by simp) (by simp [counter]) (by simp [held]) more
  exact ⟨_, counted, by simp [argument], by simp [multiplied], by simp, by simp [one], output⟩

theorem leaves (multiplying : Multiplying n product amount data) (index : Nat)
    (found : factorialCode[index]? = some (.subtractJump (.direct 3) (.direct cell) (.line 16)))
    (held : data.store cell = some amount) :
    ∃ after, Leads factorialCode index data 1 16 after ∧ Multiplying n product 0 after := by
  obtain ⟨argument, multiplied, counter, one, output⟩ := multiplying
  have left := Leads.here factorialCode index data
    |>.subtractJump 16 found 3 amount (by simp) (by simp [counter]) (by simp [held])
  exact ⟨_, left, by simp [argument], by simp [multiplied], by simp, by simp [one], output⟩

theorem multiplies (multiplying : Multiplying n product left data) :
    ∃ after, Leads factorialCode 11 data 3 14 after ∧ Multiplying n (product * left) left after := by
  obtain ⟨argument, multiplied, counter, one, output⟩ := multiplying
  have lead := Leads.here factorialCode 11 data
    |>.load rfl product multiplied
    |>.arithmetic rfl product left (product * left) (by simp) (by simp [counter]) rfl
    |>.store rfl 2 (product * left) (by simp) (by simp)
  exact ⟨_, lead, by simp [argument], by simp, by simp [counter], by simp [one], output⟩

theorem round (multiplying : Multiplying n product left data) (more : left ≠ 1) :
    ∃ after, Leads factorialCode 11 data 5 11 after ∧ Multiplying n (product * left) (left - 1) after := by
  obtain ⟨middle, lead, multiplied⟩ := multiplying.multiplies
  obtain ⟨after, counted, lowered⟩ := multiplied.counts 14 rfl multiplied.one more
  exact ⟨after, (lead.trans counted).jump 11 rfl, lowered⟩

theorem last_round (multiplying : Multiplying n product 1 data) :
    ∃ after, Leads factorialCode 11 data 4 16 after ∧ Multiplying n product 0 after := by
  obtain ⟨middle, lead, multiplied⟩ := multiplying.multiplies
  rw [Int.mul_one] at multiplied
  obtain ⟨after, left, complete⟩ := multiplied.leaves 14 rfl multiplied.one
  exact ⟨after, lead.trans left, complete⟩

/-- From a positive number the loop counts down to the end and multiplies on its way. -/
theorem rounds {more : Nat} (multiplying : Multiplying n product (more + 1 : Nat) data) :
    ∃ after, Leads factorialCode 11 data (5 * more + 4) 16 after ∧
      Multiplying n (product * (more + 1).factorial) 0 after := by
  induction more generalizing product data with
  | zero => simpa using multiplying.last_round
  | succ more ih =>
    obtain ⟨middle, first, multiplied⟩ := multiplying.round (by omega)
    rw [Int.natCast_add (more + 1), Int.cast_ofNat_Int, Int.add_sub_cancel] at multiplied
    obtain ⟨after, others, multiplied⟩ := ih multiplied
    refine ⟨after, ?_, ?_⟩
    · have lead := first.trans others
      rwa [← Nat.add_assoc, Nat.add_comm 5, ← Nat.mul_succ] at lead
    · rwa [Nat.factorial_succ (more + 1), Int.natCast_mul, ← Int.mul_assoc]

/-- From a negative number the loop goes round as often as one likes. -/
theorem rounds_below (multiplying : Multiplying n product left data) (negative : left < 0) (count : Nat) :
    ∃ after product, Leads factorialCode 11 data (5 * count) 11 after ∧ Multiplying n product (left - count) after := by
  induction count with
  | zero => exact ⟨data, product, .start, by simpa using multiplying⟩
  | succ count ih =>
    obtain ⟨middle, product, lead, multiplying⟩ := ih
    obtain ⟨after, next, multiplied⟩ := multiplying.round (by omega)
    exact ⟨after, _, lead.trans next, by rwa [Int.sub_sub] at multiplied⟩

end Multiplying

section Segments

variable {input : Input} {n : Int}

theorem factorial_setup (read : input.value = .ok n) :
    ∃ after, Leads factorialCode 0 (Data.start [input]) 10 10 after ∧ Multiplying n 1 n after ∧ after.store 4 = some 0 := by
  have lead := Leads.here factorialCode 0 (Data.start [input])
    |>.skip rfl
    |>.skip rfl
    |>.read rfl 1 n rfl read (by simp)
    |>.load rfl 1 (by simp)
    |>.store rfl 2 1 (by simp) (by simp)
    |>.store rfl 5 1 (by simp) (by simp)
    |>.load rfl n (by simp)
    |>.store rfl 3 n (by simp) (by simp)
    |>.load rfl 0 (by simp)
    |>.store rfl 4 0 (by simp) (by simp)
  exact ⟨_, lead, ⟨by simp, by simp, by simp, by simp, rfl⟩, by simp⟩

/-- Zero passes the loop by. -/
theorem factorial_skips (read : input.value = .ok 0) :
    ∃ after, Leads factorialCode 0 (Data.start [input]) 11 16 after ∧ Multiplying 0 1 0 after := by
  obtain ⟨middle, lead, multiplying, zero⟩ := factorial_setup read
  obtain ⟨after, left, complete⟩ := multiplying.leaves 10 rfl zero
  exact ⟨after, lead.trans left, complete⟩

theorem factorial_enters (read : input.value = .ok n) (nonzero : n ≠ 0) :
    ∃ after, Leads factorialCode 0 (Data.start [input]) 11 11 after ∧ Multiplying n 1 n after := by
  obtain ⟨middle, lead, multiplying, zero⟩ := factorial_setup read
  obtain ⟨after, entered, multiplying⟩ := multiplying.counts 10 rfl zero nonzero
  rw [Int.sub_zero] at multiplying
  exact ⟨after, lead.trans entered, multiplying⟩

theorem factorial_computes {n : Nat} (read : input.value = .ok (n : Int)) :
    ∃ count after, Leads factorialCode 0 (Data.start [input]) count 16 after ∧ Multiplying n n.factorial 0 after := by
  cases n with
  | zero => exact ⟨11, factorial_skips read⟩
  | succ more =>
    obtain ⟨middle, entered, multiplying⟩ := factorial_enters read (by omega)
    obtain ⟨after, looped, multiplied⟩ := multiplying.rounds
    exact ⟨_, after, entered.trans looped, by rwa [Int.one_mul] at multiplied⟩

theorem factorial_circles (read : input.value = .ok n) (negative : n < 0) (count : Nat) :
    ∃ after, Leads factorialCode 0 (Data.start [input]) (11 + 5 * count) 11 after := by
  obtain ⟨middle, entered, multiplying⟩ := factorial_enters read (by omega)
  obtain ⟨after, _, looped, _⟩ := multiplying.rounds_below negative count
  exact ⟨after, entered.trans looped⟩

end Segments

section Runs

variable {input : Input} {machine : Machine} (starts : machine.Starts factorialCode [input])
include starts

theorem factorial_halts {n : Nat} (read : input.value = .ok (n : Int)) (short : n.factorial < Numeral.bound) :
    ∃ final, machine.Runs final none ∧ final.status.halted = true ∧ final.memory.get? 1 = some (n : Int) ∧
      final.memory.get? 2 = some (n.factorial : Int) ∧ final.memory.get? 3 = some 0 ∧
      final.workspace.output.toList = [Machine.readyMessage, toString n.factorial] ++ Command.haltMessages := by
  obtain ⟨count, after, lead, ⟨argument, product, counter, _, output⟩⟩ := factorial_computes read
  have written := lead
    |>.load rfl n.factorial product
    |>.write rfl n.factorial (by simp) short
  obtain ⟨final, returned, status, data⟩ := starts.halts written rfl
  have store : final.memory.get? = (after.put 0 n.factorial).store := congrArg Data.store data
  refine ⟨final, returned, by rw [status], by simp [store, argument], by simp [store, product], by simp [store, counter], ?_⟩
  refine (congrArg Data.output data).trans ?_
  rw [Data.say_output, Data.say_output, Data.put_output, output]
  rfl

theorem factorial_overflows {n : Nat} (read : input.value = .ok (n : Int)) (long : Numeral.bound ≤ n.factorial) :
    ∃ final, machine.Runs final (some (Fault.tooLargeToWrite.atLine 18)) ∧ final.status.errored = true ∧
      final.memory.get? 2 = some (n.factorial : Int) := by
  obtain ⟨count, after, lead, multiplied⟩ := factorial_computes read
  have loaded := lead.load rfl n.factorial multiplied.product
  have held : (Reference.direct 0).Holds (after.put 0 n.factorial).store (n.factorial : Int) := by simp
  have overlong : ¬ Numeral.Representable (n.factorial : Int) := Nat.not_lt.mpr long
  obtain ⟨final, returned, status, data⟩ := starts.fails loaded rfl (execute_write_of_long held overlong)
  have store : final.memory.get? = (after.put 0 n.factorial).store := congrArg Data.store data
  exact ⟨final, returned, by rw [status], by simp [store, multiplied.product]⟩

theorem factorial_unfinished {n : Int} (read : input.value = .ok n) (negative : n < 0) (count : Nat) :
    (machine.steps count).status.finished = false := by
  obtain ⟨after, lead⟩ := factorial_circles read negative count
  exact starts.unfinished_before lead (by omega)

theorem factorial_refuses {fault : Fault} (refused : input.value = .error fault) :
    ∃ final, machine.Runs final (some (fault.atLine 3)) ∧ final.status.errored = true := by
  have asking := Leads.here factorialCode 0 (Data.start [input])
    |>.skip rfl
    |>.skip rfl
  obtain ⟨final, returned, status, _⟩ := starts.fails asking rfl (execute_read_of_refused rfl refused)
  exact ⟨final, returned, by rw [status]⟩

end Runs

/-- A natural number gives its factorial, and the run halts if that can be written and fails at the eighteenth line if
not. A negative number sets the loop going for ever, and a decimal text that is too long is refused at the third line. -/
theorem factorial_outcome {observer : Observer} (accepts : observer.Accepting) :
    (∀ (n : Nat) (input : Input), input.Gives n → n.factorial < Numeral.bound →
      ∃ start final, Machine.load factorial.source [input] none observer = .ok start ∧ start.Runs final none ∧
        final.status.halted = true ∧ final.memory.get? 1 = some (n : Int) ∧
        final.memory.get? 2 = some (n.factorial : Int) ∧ final.memory.get? 3 = some 0 ∧
        final.workspace.output.toList = [Machine.readyMessage, toString n.factorial] ++ Command.haltMessages) ∧
    (∀ (n : Nat) (input : Input), input.Gives n → Numeral.bound ≤ n.factorial →
      ∃ start final, Machine.load factorial.source [input] none observer = .ok start ∧
        start.Runs final (some (Fault.tooLargeToWrite.atLine 18)) ∧ final.status.errored = true ∧
        final.memory.get? 2 = some (n.factorial : Int)) ∧
    (∀ (n : Int) (input : Input), input.Gives n → n < 0 →
      ∃ start, Machine.load factorial.source [input] none observer = .ok start ∧
        ∀ count, (start.steps count).status.halted = false ∧ (start.steps count).status.errored = false) ∧
    ∀ n : Int, ¬ Numeral.Representable n →
      ∃ start final, Machine.load factorial.source [.text (Numeral.write n)] none observer = .ok start ∧
        start.Runs final (some (Fault.invalidInput.atLine 3)) ∧ final.status.errored = true := by
  have loaded (input : Input) := Machine.starts_of_decoded decode_factorial (by decide) accepts [input]
  refine ⟨?_, ?_, ?_, ?_⟩
  · intro n input given short
    obtain ⟨start, loads, starts⟩ := loaded input
    obtain ⟨final, outcome⟩ := factorial_halts starts given.value_eq short
    exact ⟨start, final, loads, outcome⟩
  · intro n input given long
    obtain ⟨start, loads, starts⟩ := loaded input
    obtain ⟨final, outcome⟩ := factorial_overflows starts given.value_eq long
    exact ⟨start, final, loads, outcome⟩
  · intro n input given negative
    obtain ⟨start, loads, starts⟩ := loaded input
    refine ⟨start, loads, ?_⟩
    intro count
    exact Bool.or_eq_false_iff.mp (factorial_unfinished starts given.value_eq negative count)
  · intro n long
    obtain ⟨start, loads, starts⟩ := loaded (.text (Numeral.write n))
    obtain ⟨final, outcome⟩ := factorial_refuses starts (Input.value_of_long long)
    exact ⟨start, final, loads, outcome⟩

/-- Five has a short factorial, sixteen hundred a long one, and minus one never comes to an end. -/
theorem factorial_outcome_of_five :
    (∃ start final, Machine.load factorial.source [.text "5".toList] none .snapshot = .ok start ∧ start.Runs final none ∧
      final.status.halted = true ∧ final.memory.get? 1 = some 5 ∧ final.memory.get? 2 = some 120 ∧
      final.memory.get? 3 = some 0 ∧ final.workspace.output.toList =
        ["RAM compiler is ready", "120", "Run successfully", "--------------------"]) ∧
    (∃ start final, Machine.load factorial.source [.number 1600] none .snapshot = .ok start ∧
      start.Runs final (some (Fault.tooLargeToWrite.atLine 18)) ∧ final.status.errored = true ∧
      final.memory.get? 2 = some (Nat.factorial 1600 : Int)) ∧
    ∃ start, Machine.load factorial.source [.number (-1)] none .snapshot = .ok start ∧
      ∀ count, (start.steps count).status.halted = false ∧ (start.steps count).status.errored = false := by
  have accepts := Observer.accepting_snapshot
  have short : Numeral.Representable 5 := by decide +kernel
  have five : (Input.text "5".toList).Gives 5 := .decimal short
  obtain ⟨halts, overflows, circles, _⟩ := factorial_outcome accepts
  exact ⟨halts 5 _ five (by decide +kernel), overflows 1600 _ (.number 1600) (by decide +kernel),
    circles (-1) _ (.number (-1)) (by decide)⟩

/-- The least number with one digit too many, with a minus in front of it, is refused as a text, so that the run does
come to an end although the number is negative. -/
theorem factorial_ends_at_long_text :
    ∃ start, Machine.load factorial.source [.text (Numeral.write (-Numeral.bound))] none .absent = .ok start ∧
      -(Numeral.bound : Int) < 0 ∧
      ¬ ∀ count, (start.steps count).status.halted = false ∧ (start.steps count).status.errored = false := by
  have accepts := Observer.accepting_absent
  have long : ¬ Numeral.Representable (-Numeral.bound) := by
    rw [Numeral.Representable, Int.natAbs_neg, Int.natAbs_natCast]
    exact Nat.lt_irrefl _
  have positive := Numeral.bound_pos
  obtain ⟨start, loads, starts⟩ := Machine.starts_of_decoded decode_factorial (by decide) accepts
    [.text (Numeral.write (-Numeral.bound))]
  obtain ⟨final, returned, errored⟩ := factorial_refuses starts (Input.value_of_long long)
  obtain ⟨count, rfl, _⟩ := returned.steps
  refine ⟨start, loads, by omega, ?_⟩
  intro unfinished
  exact absurd errored (by simp [unfinished count])

end RandomAccess.Sample
