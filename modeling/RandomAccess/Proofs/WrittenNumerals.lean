import Mathlib.Data.List.Basic
import RandomAccess.Command
import RandomAccess.Proofs.NumeralGrammar

/-! A number that is written can be read back. The two limits meet: a numeral has too many digits to be read exactly
if its number is too large to be written. So an input may give a number as such or by its decimal text. -/

namespace RandomAccess

namespace Digit

variable {c : Char}

theorem range_of_plain (plain : c.isDigit = true) : 48 ≤ c.toNat ∧ c.toNat ≤ 57 := by
  simpa [Char.isDigit, UInt32.le_iff_toNat_le] using plain

theorem zero?_of_plain (plain : c.isDigit = true) : zero? c = some 0x30 := by
  have inside := range_of_plain plain
  rw [zero?, zeros, List.find?_cons_of_pos]
  rw [decide_eq_true_eq]
  omega

theorem isDigit_of_plain (plain : c.isDigit = true) : isDigit c = true := by
  simp [isDigit, zero?_of_plain plain]

theorem value_of_plain (plain : c.isDigit = true) : value c = c.toNat - 48 := by
  simp [value, zero?_of_plain plain]

theorem number_of_plain {digits : Text} (plain : ∀ c ∈ digits, c.isDigit = true) :
    number digits = Nat.ofDigitChars 10 digits 0 := by
  rw [number, Nat.ofDigitChars_eq_foldl]
  apply List.foldl_ext
  intro sum c member
  rw [value_of_plain (plain c member)]
  rfl

end Digit

namespace Numeral

theorem plain_of_mem_toDigits {magnitude : Nat} {c : Char} (member : c ∈ Nat.toDigits 10 magnitude) :
    c.isDigit = true :=
  Nat.isDigit_of_mem_toDigits (by decide) (by decide) member

theorem number_toDigits (magnitude : Nat) : Digit.number (Nat.toDigits 10 magnitude) = magnitude := by
  rw [Digit.number_of_plain fun c member => plain_of_mem_toDigits member, Nat.ofDigitChars_ten_toDigits]

theorem mem_write {n : Int} {c : Char} (member : c ∈ write n) : c = '-' ∨ Digit.isDigit c = true := by
  have digit (plain : c ∈ Nat.toDigits 10 n.natAbs) : Digit.isDigit c = true :=
    Digit.isDigit_of_plain (plain_of_mem_toDigits plain)
  unfold write at member
  split at member
  · exact (List.mem_cons.mp member).imp_right digit
  · exact .inr (digit member)

theorem isBlank_of_mem_write {n : Int} {c : Char} (member : c ∈ write n) : Text.isBlank c = false := by
  rcases mem_write member with rfl | digit
  · decide
  · exact Digit.isBlank_of_isDigit digit

theorem length_toDigits_le_iff (magnitude : Nat) :
    (Nat.toDigits 10 magnitude).length ≤ digitLimit ↔ magnitude < bound := by
  rw [bound_eq, Nat.length_toDigits_le_iff (by decide) (by decide)]

/-- What is written of an integer, taken apart. Blanks may stand before it, and behind it anything but a digit. -/
def written (n : Int) {gap rest : Text} (blank : Text.Blank gap)
    (ends : ∀ c, rest.head? = some c → Digit.isDigit c = false) : Anatomy (gap ++ (write n ++ rest)) where
  gap := gap
  sign := if n < 0 then ['-'] else []
  digits := Nat.toDigits 10 n.natAbs
  places := (Nat.toDigits 10 n.natAbs).map Digit.value
  rest := rest
  whole := by
    unfold write
    split <;> rfl
  gap_blank := blank
  sign_allowed := by split <;> simp
  digits_nonempty := Nat.toDigits_ne_nil
  digits_stand := Digit.forall₂_standsFor_iff.mpr ⟨fun _ member => Digit.isDigit_of_plain (plain_of_mem_toDigits member), rfl⟩
  rest_ends := fun c first => Digit.isDigit_eq_false_iff.mp (ends c first)

section Written

variable (n : Int) {gap rest : Text} (blank : Text.Blank gap) (ends : ∀ c, rest.head? = some c → Digit.isDigit c = false)

theorem value_written : (written n blank ends).value = n := by
  rw [← Anatomy.value_eq]
  change signed (decide ((if n < 0 then ['-'] else []) = ['-'])) (Digit.number (Nat.toDigits 10 n.natAbs)) = n
  rw [number_toDigits, signed]
  by_cases negative : n < 0
  · simp only [negative, if_true, decide_true]
    omega
  · simp only [negative, if_false, List.nil_eq, List.cons_ne_nil, decide_false, Bool.false_eq_true]
    omega

include blank ends in
/-- Reading what was written, with blanks before it and whatever follows it, gives the number back or finds it too long. -/
theorem parse?_written : parse? (gap ++ (write n ++ rest)) = if Representable n then some n else none := by
  have long : digitLimit < (written n blank ends).digits.length ↔ ¬ Representable n := by
    rw [Representable, ← length_toDigits_le_iff, Nat.not_le]
    rfl
  rw [(written n blank ends).parse?_eq, value_written]
  simp only [long, ite_not]

end Written

theorem parse?_write (n : Int) : parse? (write n) = if Representable n then some n else none := by
  have alone := @parse?_written n [] [] (by simp [Text.Blank]) (by simp)
  rwa [List.append_nil, List.nil_append] at alone

end Numeral

/-- An input gives a number as such, or by its decimal text if that can be read. -/
inductive Input.Gives : Input → Int → Prop where
  | number (value : Int) : Gives (.number value) value
  | decimal {value : Int} (short : Numeral.Representable value) : Gives (.text (Numeral.write value)) value

theorem Input.Gives.value_eq {input : Input} {value : Int} (given : input.Gives value) : input.value = .ok value := by
  cases given with
  | number => rfl
  | decimal short => rw [Input.value, Numeral.parse?_write, if_pos short]

theorem Input.value_of_long {value : Int} (long : ¬ Numeral.Representable value) :
    (Input.text (Numeral.write value)).value = .error .invalidInput := by
  rw [Input.value, Numeral.parse?_write, if_neg long]

end RandomAccess
