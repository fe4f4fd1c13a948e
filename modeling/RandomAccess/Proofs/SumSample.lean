import Mathlib.Tactic.Ring
import RandomAccess.Proofs.CodeRuns
import RandomAccess.Proofs.StepLimit
import RandomAccess.Proofs.WrittenNumerals
import RandomAccess.Sample

/-! The summing sample adds up the numbers from one to what it reads. Its loop adds a counter to a sum and counts down,
as long as the counter is positive. Each round takes eight steps, and nine more come before and after the loop, so it is
known beforehand which step limits let the run halt. -/

namespace RandomAccess.Sample

open Abstract

/-- The sum of the numbers from one to some number. There are none of them if it is not positive. -/
def sumTo (n : Int) : Int :=
  if 0 < n then n * (n + 1) / 2 else 0

theorem sumTo_of_nonpositive {n : Int} (nonpositive : n ≤ 0) : sumTo n = 0 :=
  if_neg (Int.not_lt.mpr nonpositive)

theorem sumTo_succ (n : Nat) : sumTo (n + 1 : Nat) = n + 1 + sumTo n := by
  have closed (m : Nat) : sumTo m = m * (m + 1) / 2 := by
    cases m with
    | zero => rfl
    | succ m => exact if_pos (by omega)
  have next : ((n + 1 : Nat) : Int) * ((n + 1 : Nat) + 1) = n * (n + 1) + (n + 1) * 2 := by
    push_cast
    ring
  rw [closed, closed, next, Int.add_mul_ediv_right _ _ (by omega), Int.add_comm]

theorem sumTo_nonnegative (n : Int) : 0 ≤ sumTo n := by
  rcases Int.lt_or_le 0 n with positive | nonpositive
  · rw [sumTo, if_pos positive]
    exact Int.ediv_nonneg (Int.mul_nonneg (by omega) (by omega)) (by omega)
  · rw [sumTo_of_nonpositive nonpositive]

/-- The summing sample, read ahead of time. -/
def sumCode : List Abstract.Instruction :=
  [.skip, .read (.direct 1), .load (.immediate 0), .store (.direct 2), .load (.direct 1), .jumpIf .positive (.line 7),
    .jump (.line 13), .arithmetic .add (.direct 2), .store (.direct 2), .load (.direct 1), .arithmetic .sub (.immediate 1),
    .store (.direct 1), .jump (.line 4), .write (.direct 2), .halt, .skip]

theorem decode_sum : ((Program.load sum.source).toOption.map fun program => decode program.lines.toList) = some sumCode := by
  decide +kernel

/-- Between two rounds of the loop: what is still to be added, and the sum so far. -/
structure Summing (left total : Int) (data : Data) : Prop where
  counter : data.store 1 = some left
  sum : data.store 2 = some total
  output : data.output = [Machine.readyMessage]

namespace Summing

variable {left total : Int} {data : Data}

theorem round (summing : Summing left total data) (positive : 0 < left) :
    ∃ after, Leads sumCode 4 data 8 4 after ∧ Summing (left - 1) (left + total) after := by
  obtain ⟨counter, sum, output⟩ := summing
  have round := Leads.here sumCode 4 data
    |>.load rfl left counter
    |>.jumpIf 7 rfl left (by simp) (by simp [meets, positive])
    |>.arithmetic rfl left total (left + total) (by simp) (by simp [sum]) rfl
    |>.store rfl 2 (left + total) (by simp) (by simp)
    |>.load rfl left (by simp [counter])
    |>.arithmetic rfl left 1 (left - 1) (by simp) (by simp) rfl
    |>.store rfl 1 (left - 1) (by simp) (by simp)
    |>.jump 4 rfl
  exact ⟨_, round, by simp, by simp, output⟩

/-- The loop counts down to zero and adds up on its way. -/
theorem rounds {left : Nat} (summing : Summing left total data) :
    ∃ after, Leads sumCode 4 data (8 * left) 4 after ∧ Summing 0 (sumTo left + total) after := by
  induction left generalizing total data with
  | zero => exact ⟨data, .start, by simpa [sumTo] using summing⟩
  | succ left ih =>
    obtain ⟨middle, first, summed⟩ := summing.round (by omega)
    rw [Int.natCast_add, Int.cast_ofNat_Int, Int.add_sub_cancel] at summed
    obtain ⟨after, others, summed⟩ := ih summed
    refine ⟨after, ?_, ?_⟩
    · have lead := first.trans others
      rwa [Nat.add_comm, ← Nat.mul_succ] at lead
    · rwa [sumTo_succ, Int.add_comm (left + 1) (sumTo left), Int.add_assoc]

theorem leaves (summing : Summing left total data) (nonpositive : left ≤ 0) :
    ∃ after, Leads sumCode 4 data 3 13 after ∧ Summing left total after := by
  obtain ⟨counter, sum, output⟩ := summing
  have lead := Leads.here sumCode 4 data
    |>.load rfl left counter
    |>.pass rfl left (by simp) (by simp [meets, nonpositive])
    |>.jump 13 rfl
  exact ⟨_, lead, by simp [counter], by simp [sum], output⟩

end Summing

section Segments

variable {input : Input} {n : Int}

theorem sum_setup (read : input.value = .ok n) :
    ∃ after, Leads sumCode 0 (Data.start [input]) 4 4 after ∧ Summing n 0 after := by
  have lead := Leads.here sumCode 0 (Data.start [input])
    |>.skip rfl
    |>.read rfl 1 n rfl read (by simp)
    |>.load rfl 0 (by simp)
    |>.store rfl 2 0 (by simp) (by simp)
  exact ⟨_, lead, by simp, by simp, rfl⟩

/-- Whatever the sign of the number, the loop is left with the sum and with what could not be added. -/
theorem sum_loops (read : input.value = .ok n) :
    ∃ after, Leads sumCode 0 (Data.start [input]) (8 * n.toNat + 7) 13 after ∧ Summing (min n 0) (sumTo n) after := by
  obtain ⟨entered, setup, summing⟩ := sum_setup read
  rcases Int.lt_or_le 0 n with positive | nonpositive
  · obtain ⟨n, rfl⟩ := Int.eq_ofNat_of_zero_le (Int.le_of_lt positive)
    obtain ⟨looped, rounds, summed⟩ := summing.rounds
    rw [Int.add_zero] at summed
    obtain ⟨after, left, summed⟩ := summed.leaves (Int.le_refl 0)
    refine ⟨after, ?_, ?_⟩
    · have lead := (setup.trans rounds).trans left
      rwa [Nat.add_comm 4, Nat.add_assoc] at lead
    · rwa [Int.min_eq_right (Int.le_of_lt positive)]
  · obtain ⟨after, left, summed⟩ := summing.leaves nonpositive
    refine ⟨after, ?_, ?_⟩
    · rw [Int.toNat_of_nonpos nonpositive]
      exact setup.trans left
    · rwa [Int.min_eq_left nonpositive, sumTo_of_nonpositive nonpositive]

end Segments

section Runs

variable {input : Input} {machine : Machine} (starts : machine.Starts sumCode [input])
include starts

theorem sum_halts {n : Int} (read : input.value = .ok n) (short : sumTo n < Numeral.bound) :
    ∃ final, machine.Runs final none ∧ final.status = ⟨14, true, false, 8 * max n 0 + 9⟩ ∧
      final.memory.get? 2 = some (sumTo n) ∧ final.memory.get? 1 = some (min n 0) ∧
      final.workspace.output.toList = [Machine.readyMessage, toString (sumTo n)] ++ Command.haltMessages := by
  obtain ⟨after, lead, ⟨counter, sum, output⟩⟩ := sum_loops read
  have natural := sumTo_nonnegative n
  have written : Numeral.Representable (sumTo n) := by
    rw [Numeral.Representable]
    omega
  obtain ⟨final, returned, status, data⟩ := starts.halts (lead.write rfl (sumTo n) sum written) rfl
  have store : final.memory.get? = after.store := congrArg Data.store data
  refine ⟨final, returned, ?_, by rw [store, sum], by rw [store, counter], ?_⟩
  · rw [status]
    congr 1
    omega
  · refine (congrArg Data.output data).trans ?_
    rw [Data.say_output, Data.say_output, output]
    rfl

theorem sum_refuses {fault : Fault} (refused : input.value = .error fault) :
    ∃ final, machine.Runs final (some (fault.atLine 2)) ∧ final.status = ⟨1, false, true, 1⟩ := by
  have asking := Leads.here sumCode 0 (Data.start [input])
    |>.skip rfl
  obtain ⟨final, returned, status, _⟩ := starts.fails asking rfl (execute_read_of_refused rfl refused)
  exact ⟨final, returned, status⟩

end Runs

/-- A number whose sum can be written gives that sum, and the run halts after as many steps as can be told from the
number. It halts under a step limit exactly if the limit allows that many. A decimal text that is too long is refused at
the second line. -/
theorem sum_outcome {observer : Observer} (accepts : observer.Accepting) :
    (∀ (n : Int) (input : Input), input.Gives n → sumTo n < Numeral.bound →
      (∃ start final, Machine.load sum.source [input] none observer = .ok start ∧ start.Runs final none ∧
        final.status.halted = true ∧ final.status.stepCount = 8 * max n 0 + 9 ∧
        final.memory.get? 2 = some (sumTo n) ∧ final.memory.get? 1 = some (min n 0) ∧
        final.workspace.output.toList = [Machine.readyMessage, toString (sumTo n)] ++ Command.haltMessages) ∧
      ∀ limit : Int, ∃ limited final error?, Machine.load sum.source [input] (some limit) observer = .ok limited ∧
        limited.Runs final error? ∧ (final.status.halted = true ↔ 8 * max n 0 + 9 ≤ limit)) ∧
    ∀ n : Int, ¬ Numeral.Representable n →
      ∃ start final, Machine.load sum.source [.text (Numeral.write n)] none observer = .ok start ∧
        start.Runs final (some (Fault.invalidInput.atLine 2)) ∧ final.status.errored = true := by
  have loaded (input : Input) := Machine.starts_of_decoded decode_sum (by decide) accepts [input]
  constructor
  · intro n input given short
    obtain ⟨start, loads, starts⟩ := loaded input
    obtain ⟨final, returned, status, sum, counter, output⟩ := sum_halts starts given.value_eq short
    refine ⟨⟨start, final, loads, returned, by rw [status], by rw [status], sum, counter, output⟩, ?_⟩
    intro limit
    obtain ⟨count, counted⟩ := Int.eq_ofNat_of_zero_le (show 0 ≤ 8 * max n 0 + 9 by omega)
    have fresh := Machine.load_fresh loads
    have := Machine.load_worded loads nofun
    have halts : start.HaltsWith count := fresh.haltsWith returned (by rw [status]) (by rw [status]) (by rw [status, counted])
    obtain ⟨limits, unlimited⟩ := Machine.load_setLimit loads (some limit)
    obtain ⟨last, error?, stops, within⟩ := fresh.halts_limited_iff unlimited halts limit
    rw [← counted] at within
    exact ⟨_, last, error?, limits, stops, within⟩
  · intro n long
    obtain ⟨start, loads, starts⟩ := loaded (.text (Numeral.write n))
    obtain ⟨final, returned, status⟩ := sum_refuses starts (Input.value_of_long long)
    exact ⟨start, final, loads, returned, by rw [status]⟩

/-- Four gives ten after forty-one steps, and not with one step less. Minus three gives nothing and stays what it is. -/
theorem sum_outcome_of_four :
    (∃ start final, Machine.load sum.source [.text "4".toList] none .snapshot = .ok start ∧ start.Runs final none ∧
      final.status.halted = true ∧ final.status.stepCount = 41 ∧ final.memory.get? 2 = some 10 ∧
      final.memory.get? 1 = some 0 ∧
      final.workspace.output.toList = ["RAM compiler is ready", "10", "Run successfully", "--------------------"]) ∧
    (∀ limit : Int, ∃ limited final error?, Machine.load sum.source [.text "4".toList] (some limit) .snapshot = .ok limited ∧
      limited.Runs final error? ∧ (final.status.halted = true ↔ 41 ≤ limit)) ∧
    ∃ start final, Machine.load sum.source [.number (-3)] none .snapshot = .ok start ∧ start.Runs final none ∧
      final.status.halted = true ∧ final.status.stepCount = 9 ∧ final.memory.get? 2 = some 0 ∧
      final.memory.get? 1 = some (-3) ∧
      final.workspace.output.toList = ["RAM compiler is ready", "0", "Run successfully", "--------------------"] := by
  have accepts := Observer.accepting_snapshot
  have short : Numeral.Representable 4 := by decide +kernel
  have four : (Input.text "4".toList).Gives 4 := .decimal short
  obtain ⟨sums, _⟩ := sum_outcome accepts
  obtain ⟨halts, limits⟩ := sums 4 _ four (by decide +kernel)
  obtain ⟨nothing, _⟩ := sums (-3) _ (.number (-3)) (by decide +kernel)
  exact ⟨halts, limits, nothing⟩

/-- The least number with one digit too many, with a minus in front of it, is refused as a text, so that the run does not
halt although there is nothing to add up. -/
theorem sum_unhalted_at_long_text :
    ∃ start, Machine.load sum.source [.text (Numeral.write (-Numeral.bound))] none .absent = .ok start ∧
      sumTo (-Numeral.bound) < Numeral.bound ∧
      ¬ ∃ final error?, start.Runs final error? ∧ final.status.halted = true := by
  have accepts := Observer.accepting_absent
  have long : ¬ Numeral.Representable (-Numeral.bound) := by
    rw [Numeral.Representable, Int.natAbs_neg, Int.natAbs_natCast]
    exact Nat.lt_irrefl _
  have positive := Numeral.bound_pos
  obtain ⟨start, loads, starts⟩ := Machine.starts_of_decoded decode_sum (by decide) accepts
    [.text (Numeral.write (-Numeral.bound))]
  obtain ⟨final, returned, status⟩ := sum_refuses starts (Input.value_of_long long)
  refine ⟨start, loads, ?_, ?_⟩
  · rw [sumTo_of_nonpositive (by omega)]
    omega
  · intro halts
    obtain ⟨other, error?, ended, halted⟩ := halts
    obtain ⟨rfl, _⟩ := ended.unique returned
    rw [status] at halted
    cases halted

end RandomAccess.Sample
