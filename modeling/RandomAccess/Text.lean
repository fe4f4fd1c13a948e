/-!
Source text is a list of characters. The blank characters are the ones that separate words; a newline
is one of them, and so are the wide and the non-breaking spaces.
-/

namespace RandomAccess

abbrev Text := List Char

namespace Text

/-- Tab to carriage return, the four separators and the space, the next line and the non-breaking space,
then the spaces and separators beyond Latin. -/
def isBlank (c : Char) : Bool :=
  let point := c.toNat
  (0x09 ≤ point && point ≤ 0x0D) || (0x1C ≤ point && point ≤ 0x20) || point = 0x85 || point = 0xA0 ||
    point = 0x1680 || (0x2000 ≤ point && point ≤ 0x200A) || point = 0x2028 || point = 0x2029 ||
    point = 0x202F || point = 0x205F || point = 0x3000

/-- The text up to the first occurrence of a mark, or all of it. -/
def before (mark : Char) (text : Text) : Text :=
  text.takeWhile (· != mark)

def trimLeft (text : Text) : Text :=
  text.dropWhile isBlank

def trimRight (text : Text) : Text :=
  (text.reverse.dropWhile isBlank).reverse

def trim (text : Text) : Text :=
  trimRight (trimLeft text)

/-- The text without any of its blanks. -/
def squeeze (text : Text) : Text :=
  text.filter fun c => !isBlank c

/-- The order of texts by their code points. -/
def notAfter (first second : Text) : Bool :=
  !second.lex first fun left right => decide (left.toNat < right.toNat)

/-- All line breaks as newlines: a carriage return counts as one, also together with a newline. So a
newline right after a carriage return is left out. -/
def unifyBreaks (text : Text) : Text :=
  ((' ' :: text).zip text).filterMap fun (previous, c) =>
    if previous = '\r' ∧ c = '\n' then none else some (if c = '\r' then '\n' else c)

/-- The lines of a text that is read line by line. A break at the end does not begin another line. -/
def readLines (text : Text) : List Text :=
  let lines := text.splitOn '\n'
  if lines.getLast? = some [] then lines.dropLast else lines

/-- The values listed in a text: the parts between commas, trimmed, without the blank ones. -/
def listed (text : Text) : List Text :=
  ((text.splitOn ',').map trim).filter fun part => !part.isEmpty

end Text

end RandomAccess
