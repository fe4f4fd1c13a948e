import Mathlib.Data.List.Forall2
import Mathlib.Data.List.Induction
import Mathlib.Data.Nat.Digits.Defs
import RandomAccess.Proofs.NumeralValues
import RandomAccess.Proofs.TextTrimming

/-! The grammar of numerals. A text begins with a numeral when it falls apart into blanks, a sign or none, some digits
and a rest that does not go on with a digit. There is at most one way to take it apart so, and reading it gives the
integer in base ten, unless there are too many digits. -/

namespace RandomAccess

namespace Digit

/-- A digit stands for its place in a row of ten. -/
def StandsFor (c : Char) (place : Nat) : Prop :=
  place < 10 ∧ ∃ start ∈ zeros, c.toNat = start + place

theorem rows_apart :
    ∀ first ∈ zeros, ∀ second ∈ zeros, first = second ∨ first + 10 ≤ second ∨ second + 10 ≤ first := by
  decide +kernel

/-- The blanks lie between the rows. -/
theorem rows_visible :
    ∀ start ∈ zeros, 0x20 < start ∧ start + 10 ≤ 0x85 ∨ 0xA0 < start ∧ start + 10 ≤ 0x1680 ∨
      0x1680 < start ∧ start + 10 ≤ 0x2000 ∨ 0x3000 < start := by
  decide +kernel

variable {c : Char} {place : Nat}

theorem zero?_eq_some_iff {start : Nat} :
    zero? c = some start ↔ start ∈ zeros ∧ start ≤ c.toNat ∧ c.toNat < start + 10 := by
  constructor
  · intro found
    refine ⟨List.mem_of_find?_eq_some found, ?_⟩
    simpa using List.find?_some found
  · intro inside
    obtain ⟨member, above, below⟩ := inside
    have some : (zero? c).isSome = true := by
      rw [zero?, List.find?_isSome]
      exact ⟨start, member, by simp [above, below]⟩
    obtain ⟨other, found⟩ := Option.isSome_iff_exists.mp some
    have among : other ∈ zeros := List.mem_of_find?_eq_some found
    have around : other ≤ c.toNat ∧ c.toNat < other + 10 := by simpa using List.find?_some found
    have same : start = other := by
      have apart := rows_apart start member other among
      omega
    rw [found, same]

theorem standsFor_iff : StandsFor c place ↔ isDigit c = true ∧ value c = place := by
  constructor
  · intro stands
    obtain ⟨small, start, member, same⟩ := stands
    have found : zero? c = some start := zero?_eq_some_iff.mpr ⟨member, by omega, by omega⟩
    simp only [isDigit, value, found, Option.isSome_some, true_and]
    omega
  · intro digit
    obtain ⟨digit, same⟩ := digit
    obtain ⟨start, found⟩ := Option.isSome_iff_exists.mp digit
    obtain ⟨member, above, below⟩ := zero?_eq_some_iff.mp found
    simp only [value, found] at same
    exact ⟨by omega, start, member, by omega⟩

theorem isDigit_eq_false_iff : isDigit c = false ↔ ∀ place, ¬ StandsFor c place := by
  simp only [standsFor_iff, not_and, ← Bool.not_eq_true]
  constructor
  · intro other place digit
    exact absurd digit other
  · intro none digit
    exact none (value c) digit rfl

theorem isBlank_of_isDigit (digit : isDigit c = true) : Text.isBlank c = false := by
  obtain ⟨small, start, member, same⟩ := standsFor_iff.mpr ⟨digit, rfl⟩
  have visible := rows_visible start member
  simp only [Text.isBlank, Bool.or_eq_false_iff, Bool.and_eq_false_iff, decide_eq_false_iff_not]
  omega

theorem forall₂_standsFor_iff {digits : Text} {places : List Nat} :
    List.Forall₂ StandsFor digits places ↔ (∀ c ∈ digits, isDigit c = true) ∧ digits.map value = places := by
  induction digits generalizing places with
  | nil => cases places <;> simp
  | cons c digits ih =>
    cases places with
    | nil => simp
    | cons place places =>
      simp only [List.forall₂_cons, standsFor_iff, ih, List.forall_mem_cons, List.map_cons, List.cons.injEq]
      tauto

/-- The last digit of a row counts once, the one before it ten times, and so on. -/
theorem number_eq_ofDigits (digits : Text) : number digits = Nat.ofDigits 10 (digits.map value).reverse := by
  induction digits using List.reverseRecOn with
  | nil => rfl
  | append_singleton digits c ih =>
    have last : number (digits ++ [c]) = 10 * number digits + value c := List.foldl_concat ..
    rw [last, ih, List.map_append, List.map_singleton, List.reverse_concat, Nat.ofDigits_cons, Nat.add_comm]

end Digit

namespace Numeral

/-- A text that begins with a numeral, taken apart. All the digits that follow the sign are the numeral's. -/
@[ext]
structure Anatomy (text : Text) where
  gap : Text
  sign : Text
  digits : Text
  places : List Nat
  rest : Text
  whole : text = gap ++ (sign ++ (digits ++ rest))
  gap_blank : Text.Blank gap
  sign_allowed : sign ∈ [[], ['+'], ['-']]
  digits_nonempty : digits ≠ []
  digits_stand : List.Forall₂ Digit.StandsFor digits places
  rest_ends : ∀ c, rest.head? = some c → ∀ place, ¬ Digit.StandsFor c place

theorem sign_of_digit {text : Text} (digit : ∀ c, text.head? = some c → Digit.isDigit c = true) :
    sign text = (false, text) := by
  unfold sign
  split
  next => exact absurd (digit '-' rfl) (by decide)
  next => exact absurd (digit '+' rfl) (by decide)
  next => rfl

theorem exists_sign (text : Text) : ∃ mark, mark ∈ [[], ['+'], ['-']] ∧ mark ++ (sign text).2 = text := by
  unfold sign
  split
  next => exact ⟨['-'], by simp, rfl⟩
  next => exact ⟨['+'], by simp, rfl⟩
  next => exact ⟨[], by simp, rfl⟩

namespace Anatomy

variable {text : Text}

/-- What the digits stand for in base ten, where the last one counts least. -/
def magnitude (anatomy : Anatomy text) : Nat :=
  Nat.ofDigits 10 anatomy.places.reverse

def value (anatomy : Anatomy text) : Int :=
  if anatomy.sign = ['-'] then -anatomy.magnitude else anatomy.magnitude

variable (anatomy : Anatomy text)

theorem isDigit_of_mem {c : Char} (member : c ∈ anatomy.digits) : Digit.isDigit c = true :=
  (Digit.forall₂_standsFor_iff.mp anatomy.digits_stand).1 c member

theorem places_eq : anatomy.digits.map Digit.value = anatomy.places :=
  (Digit.forall₂_standsFor_iff.mp anatomy.digits_stand).2

theorem rest_undigit {c : Char} (first : anatomy.rest.head? = some c) : Digit.isDigit c = false :=
  Digit.isDigit_eq_false_iff.mpr (anatomy.rest_ends c first)

theorem isDigit_head? {c : Char} (first : (anatomy.digits ++ anatomy.rest).head? = some c) : Digit.isDigit c = true := by
  rw [List.head?_append_of_ne_nil _ anatomy.digits_nonempty] at first
  exact anatomy.isDigit_of_mem (List.mem_of_head? first)

/-- The blanks end where the numeral begins. -/
theorem visible {c : Char} (first : (anatomy.sign ++ (anatomy.digits ++ anatomy.rest)).head? = some c) :
    Text.isBlank c = false := by
  have allowed := anatomy.sign_allowed
  simp only [List.mem_cons, List.not_mem_nil, or_false] at allowed
  rcases allowed with none | plus | minus
  · rw [none, List.nil_append] at first
    exact Digit.isBlank_of_isDigit (anatomy.isDigit_head? first)
  · rw [plus] at first
    cases first
    decide
  · rw [minus] at first
    cases first
    decide

theorem takeWhile_isBlank : text.takeWhile Text.isBlank = anatomy.gap := by
  conv_lhs => rw [anatomy.whole]
  exact Text.takeWhile_run anatomy.gap_blank fun _ => anatomy.visible

theorem trimLeft_eq : Text.trimLeft text = anatomy.sign ++ (anatomy.digits ++ anatomy.rest) := by
  conv_lhs => rw [anatomy.whole]
  exact Text.dropWhile_run anatomy.gap_blank fun _ => anatomy.visible

theorem sign_eq : Numeral.sign (Text.trimLeft text) = (decide (anatomy.sign = ['-']), anatomy.digits ++ anatomy.rest) := by
  have allowed := anatomy.sign_allowed
  simp only [List.mem_cons, List.not_mem_nil, or_false] at allowed
  rw [anatomy.trimLeft_eq]
  rcases allowed with none | plus | minus
  · rw [none, List.nil_append, sign_of_digit fun _ => anatomy.isDigit_head?]
    rfl
  · rw [plus]
    rfl
  · rw [minus]
    rfl

theorem takeWhile_isDigit : (anatomy.digits ++ anatomy.rest).takeWhile Digit.isDigit = anatomy.digits :=
  Text.takeWhile_run (fun _ => anatomy.isDigit_of_mem) fun _ => anatomy.rest_undigit

theorem dropWhile_isDigit : (anatomy.digits ++ anatomy.rest).dropWhile Digit.isDigit = anatomy.rest :=
  Text.dropWhile_run (fun _ => anatomy.isDigit_of_mem) fun _ => anatomy.rest_undigit

theorem value_eq : signed (decide (anatomy.sign = ['-'])) (Digit.number anatomy.digits) = anatomy.value := by
  rw [Digit.number_eq_ofDigits, anatomy.places_eq, signed, value, magnitude]
  simp only [decide_eq_true_eq]

/-- The integer is read unless it has too many digits. -/
theorem parse?_eq : parse? text = if digitLimit < anatomy.digits.length then none else some anatomy.value := by
  have nonempty : anatomy.digits.isEmpty = false := List.isEmpty_eq_false_iff.mpr anatomy.digits_nonempty
  simp only [parse?, anatomy.sign_eq, anatomy.takeWhile_isDigit, anatomy.value_eq, nonempty, Bool.false_or, decide_eq_true_eq]

/-- A text can be taken apart in one way only. -/
theorem unique (first second : Anatomy text) : first = second := by
  -- Every part is found again by reading, which does not know how the text was taken apart.
  have numeral : first.digits ++ first.rest = second.digits ++ second.rest := by
    have same := first.sign_eq.symm.trans second.sign_eq
    exact (Prod.mk.inj same).2
  have digits : first.digits = second.digits := by
    rw [← first.takeWhile_isDigit, numeral, second.takeWhile_isDigit]
  have sign : first.sign = second.sign := by
    have same := first.trimLeft_eq.symm.trans second.trimLeft_eq
    rw [numeral] at same
    exact List.append_cancel_right same
  ext1
  · exact first.takeWhile_isBlank.symm.trans second.takeWhile_isBlank
  · exact sign
  · exact digits
  · rw [← first.places_eq, digits, second.places_eq]
  · rw [← first.dropWhile_isDigit, numeral, second.dropWhile_isDigit]

/-- A text with a digit after its blanks and its sign can be taken apart. -/
theorem exists_of_digits (shown : (Numeral.sign (Text.trimLeft text)).2.takeWhile Digit.isDigit ≠ []) :
    Nonempty (Anatomy text) := by
  obtain ⟨mark, allowed, split⟩ := exists_sign (Text.trimLeft text)
  let numeral := (Numeral.sign (Text.trimLeft text)).2
  refine ⟨⟨text.takeWhile Text.isBlank, mark, numeral.takeWhile Digit.isDigit, _, numeral.dropWhile Digit.isDigit, ?_, ?_,
    allowed, shown, Digit.forall₂_standsFor_iff.mpr ⟨?_, rfl⟩, ?_⟩⟩
  · rw [List.takeWhile_append_dropWhile, split]
    exact List.takeWhile_append_dropWhile.symm
  · exact List.all_eq_true.mp List.all_takeWhile
  · exact List.all_eq_true.mp List.all_takeWhile
  · intro c first
    have stopped := List.head?_dropWhile_not Digit.isDigit numeral
    rw [first] at stopped
    exact Digit.isDigit_eq_false_iff.mp stopped

end Anatomy

theorem parse?_eq_some_iff {text : Text} {n : Int} :
    parse? text = some n ↔ ∃ anatomy : Anatomy text, anatomy.digits.length ≤ digitLimit ∧ anatomy.value = n := by
  constructor
  · intro parsed
    have shown : (sign (Text.trimLeft text)).2.takeWhile Digit.isDigit ≠ [] := by
      intro hidden
      simp [parse?, hidden] at parsed
    obtain ⟨anatomy⟩ := Anatomy.exists_of_digits shown
    rw [anatomy.parse?_eq] at parsed
    split at parsed
    next => cases parsed
    next short => exact ⟨anatomy, Nat.le_of_not_lt short, Option.some.inj parsed⟩
  · intro begins
    obtain ⟨anatomy, short, same⟩ := begins
    rw [anatomy.parse?_eq, if_neg (Nat.not_lt.mpr short), same]

theorem parse?_eq_none_iff {text : Text} :
    parse? text = none ↔ ∀ anatomy : Anatomy text, digitLimit < anatomy.digits.length := by
  rw [Option.eq_none_iff_forall_ne_some]
  constructor
  · intro unread anatomy
    apply Nat.lt_of_not_le
    intro short
    exact unread anatomy.value (parse?_eq_some_iff.mpr ⟨anatomy, short, rfl⟩)
  · intro long n parsed
    obtain ⟨anatomy, short, _⟩ := parse?_eq_some_iff.mp parsed
    exact Nat.not_le_of_lt (long anatomy) short

/-- A text is read as an integer exactly if it begins with a numeral of at most 4300 digits, leading zeros counted, and
then as the integer that the digits and the sign stand for. It begins with a numeral in one way at most, so a longer row
of digits is not read in part. -/
theorem parse?_exact (text : Text) :
    (∀ n, parse? text = some n ↔ ∃ anatomy : Anatomy text, anatomy.digits.length ≤ 4300 ∧ anatomy.value = n) ∧
    (parse? text = none ↔ ∀ anatomy : Anatomy text, 4300 < anatomy.digits.length) ∧
    ∀ first second : Anatomy text, first = second :=
  ⟨fun _ => parse?_eq_some_iff, parse?_eq_none_iff, Anatomy.unique⟩

-- Digits of two rows, with a zero in front of them.
example : parse? "\u3000-0٤2.5".toList = some (-42) := by decide

end Numeral
end RandomAccess
