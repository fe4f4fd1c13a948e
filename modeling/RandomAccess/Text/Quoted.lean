import RandomAccess.Text.Printable

/-!
Text between quotation marks, as a message names it. Single marks are used unless the text has one and
no double mark; a backslash stands before the mark, before a backslash, and before the code of a
character that cannot be shown.
-/

namespace RandomAccess.Text

/-- The mark to put around a text. -/
def quoteMark (text : Text) : Char :=
  if text.contains '\'' && !text.contains '"' then '"' else '\''

/-- A number in base sixteen, with zeros in front up to a width. -/
def hexadecimal (width number : Nat) : Text :=
  let digits := Nat.toDigits 16 number
  List.replicate (width - digits.length) '0' ++ digits

/-- A character by its code, in the shortest of three forms. -/
def codeOf (c : Char) : Text :=
  if c.toNat ≤ 0xFF then 'x' :: hexadecimal 2 c.toNat
  else if c.toNat ≤ 0xFFFF then 'u' :: hexadecimal 4 c.toNat
  else 'U' :: hexadecimal 8 c.toNat

def escape (mark c : Char) : Text :=
  if c = mark ∨ c = '\\' then ['\\', c]
  else if c = '\t' then ['\\', 't']
  else if c = '\n' then ['\\', 'n']
  else if c = '\r' then ['\\', 'r']
  else if isPrintable c then [c]
  else '\\' :: codeOf c

def quoted (text : Text) : Text :=
  let mark := quoteMark text
  mark :: text.flatMap (escape mark) ++ [mark]

end RandomAccess.Text
