import TextTemplate.Text.WidthTable

/-!
# Width on a terminal

The number of columns that a text takes when it is printed on a line of its own.
-/

namespace TextTemplate.Text

/-- The columns of one character. -/
def charWidth (c : Char) : Nat :=
  if c.toNat < 0x7f then 1
  else if within zeroWidthRanges c then 0
  else if within wideRanges c then 2
  else 1

/-- The columns of a text. -/
def width (text : String) : Nat :=
  (text.toList.map charWidth).foldl (· + ·) 0

end TextTemplate.Text
