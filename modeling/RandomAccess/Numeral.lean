import RandomAccess.Digit

/-!
Integers as text. A numeral is an optional sign and decimal digits, at most 4300 of them; an integer
is written when it needs no more digits than that.
-/

namespace RandomAccess.Numeral

/-- The greatest number of digits that a numeral may have, leading zeros counted. -/
def digitLimit : Nat := 4300

/-- The least natural number with more than `digitLimit` digits. -/
def bound : Nat := Nat.pow 10 digitLimit

/-- An integer that can be written as a numeral. -/
def Representable (n : Int) : Prop :=
  n.natAbs < bound

instance (n : Int) : Decidable (Representable n) :=
  inferInstanceAs (Decidable (n.natAbs < bound))

/-- Why an integer cannot be written. -/
def limitMessage : String :=
  "Exceeds the limit (4300 digits) for integer string conversion; use sys.set_int_max_str_digits() to increase the limit"

/-- An optional sign: whether it is a minus, and the text after it. -/
def sign : Text → Bool × Text
  | '-' :: rest => (true, rest)
  | '+' :: rest => (false, rest)
  | text => (false, text)

/-- The integer that a sign and a row of digits stand for. -/
def signed (negative : Bool) (magnitude : Nat) : Int :=
  if negative then -magnitude else magnitude

/-- The integer at the start of a text, after blanks. All digits that follow the sign belong to it,
and what follows them is not looked at. -/
def parse? (text : Text) : Option Int :=
  let (negative, rest) := sign (Text.trimLeft text)
  let digits := rest.takeWhile Digit.isDigit
  if digits.isEmpty || digitLimit < digits.length then none
  else some (signed negative (Digit.number digits))

/-- The decimal digits of an integer, with a minus sign in front of a negative one. -/
def write (n : Int) : Text :=
  if n < 0 then '-' :: Nat.toDigits 10 n.natAbs else Nat.toDigits 10 n.natAbs

/-- The text of an integer that is short enough to be written. -/
def text? (n : Int) : Option Text :=
  if Representable n then some (write n) else none

/-- The number of binary digits of the magnitude of an integer. -/
def bitLength (n : Int) : Nat :=
  if n = 0 then 0 else n.natAbs.log2 + 1

end RandomAccess.Numeral
