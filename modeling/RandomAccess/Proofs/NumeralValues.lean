import Mathlib.Algebra.Group.Nat.Defs
import RandomAccess.Numeral

/-! The integers that numerals stand for. A row of digits stands for less than the power of ten of its length,
so whatever is read from a text can be written again. -/

namespace RandomAccess

namespace Digit

theorem value_lt (c : Char) : value c < 10 := by
  unfold value
  split
  next start found =>
    have inside : start ≤ c.toNat ∧ c.toNat < start + 10 := by simpa using List.find?_some found
    omega
  next => decide

theorem foldl_lt (digits : Text) (sum : Nat) :
    digits.foldl (fun sum c => 10 * sum + value c) sum < (sum + 1) * 10 ^ digits.length := by
  induction digits generalizing sum with
  | nil => simp
  | cons c rest ih =>
    have digit := value_lt c
    calc (c :: rest).foldl (fun sum c => 10 * sum + value c) sum
        < (10 * sum + value c + 1) * 10 ^ rest.length := ih (10 * sum + value c)
      _ ≤ ((sum + 1) * 10) * 10 ^ rest.length := Nat.mul_le_mul_right _ (by omega)
      _ = (sum + 1) * 10 ^ (c :: rest).length := by rw [List.length_cons, Nat.pow_succ', Nat.mul_assoc]

theorem number_lt (digits : Text) : number digits < 10 ^ digits.length := by
  have bounded := foldl_lt digits 0
  rwa [Nat.zero_add, Nat.one_mul] at bounded

end Digit

namespace Numeral

theorem natAbs_signed (negative : Bool) (magnitude : Nat) : (signed negative magnitude).natAbs = magnitude := by
  cases negative <;> simp [signed]

theorem bound_eq : bound = 10 ^ digitLimit := by
  unfold bound
  generalize digitLimit = limit
  rfl

theorem bound_pos : 0 < bound := by
  rw [bound_eq]
  exact Nat.pow_pos (by decide)

theorem representable_iff {n : Int} : Representable n ↔ n.natAbs < 10 ^ 4300 := by
  rw [Representable, bound_eq, digitLimit]

theorem parse?_representable {text : Text} {n : Int} (parsed : parse? text = some n) : Representable n := by
  simp only [parse?] at parsed
  split at parsed
  · cases parsed
  next short =>
    cases parsed
    simp only [Bool.or_eq_true, decide_eq_true_eq, not_or, Nat.not_lt] at short
    unfold Representable
    rw [natAbs_signed, bound_eq]
    exact Nat.lt_of_lt_of_le (Digit.number_lt _) (Nat.pow_le_pow_right (by decide) short.2)

theorem text?_eq_some_iff {n : Int} {text : Text} : text? n = some text ↔ Representable n ∧ text = write n := by
  unfold text?
  split
  next short => simp [short, eq_comm]
  next long => simp [long]

theorem text?_of_representable {n : Int} (short : Representable n) : text? n = some (write n) :=
  text?_eq_some_iff.mpr ⟨short, rfl⟩

theorem ofList_write (n : Int) : String.ofList (write n) = toString n := by
  cases n with
  | ofNat n => rfl
  | negSucc n =>
    have digits : write (Int.negSucc n) = '-' :: Nat.toDigits 10 (n + 1) := by simp [write]
    rw [digits, String.ofList_cons]
    simp only [toString, Int.repr]
    rfl

end Numeral
end RandomAccess
