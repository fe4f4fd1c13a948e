import RandomAccess.Numeral

/-!
Whole numbers on the command line. The whole text is the number: spaces around it are dropped, and
digits may be grouped by single underscores.
-/

namespace RandomAccess.Count

/-- The characters dropped around a number: the blanks other than the four information separators. -/
def isSpace (c : Char) : Bool :=
  Text.isBlank c && !decide (0x1C ≤ c.toNat ∧ c.toNat ≤ 0x1F)

/-- The digits of a text of digits, with single underscores between some of them. -/
def ungroup? : Text → Option Text
  | [] => none
  | [c] => if Digit.isDigit c then some [c] else none
  | c :: '_' :: rest => if Digit.isDigit c then (ungroup? rest).map (c :: ·) else none
  | c :: rest => if Digit.isDigit c then (ungroup? rest).map (c :: ·) else none

def parse? (text : Text) : Option Int := do
  let trimmed := ((text.dropWhile isSpace).reverse.dropWhile isSpace).reverse
  let (negative, rest) := Numeral.sign trimmed
  let digits ← ungroup? rest
  if Numeral.digitLimit < digits.length then none
  else pure (Numeral.signed negative (Digit.number digits))

end RandomAccess.Count
