import RandomAccess.Text

/-!
The text of an instruction is a keyword and, after a blank, operands between commas. Blanks do not
count among the operands, not even inside one.
-/

namespace RandomAccess

structure Statement where
  keyword : Text
  operands : List Text
  deriving DecidableEq, Repr

namespace Statement

/-- Nothing at all is no operand; otherwise every comma divides two, which may be empty. -/
def operandsOf (text : Text) : List Text :=
  if text.isEmpty then [] else text.splitOn ','

def ofText (text : Text) : Statement :=
  let body := Text.trim (Text.before ';' text)
  ⟨body.takeWhile (!Text.isBlank ·), operandsOf (Text.squeeze (body.dropWhile (!Text.isBlank ·)))⟩

end Statement

end RandomAccess
