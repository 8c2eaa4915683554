/-!
# Blank characters

Contents of tags are trimmed of blanks on both sides, where a blank is any character
with the White_Space property: not only the space and the controls from tab to carriage
return, but also the next-line control, the no-break and typographic spaces, and the
line and paragraph separators.
-/

namespace TextTemplate.Text

/-- Characters with the White_Space property. -/
def isBlank (c : Char) : Bool :=
  let n := c.toNat
  n == 0x20 || (0x9 ≤ n && n ≤ 0xd) || n == 0x85 || n == 0xa0 || n == 0x1680 ||
    (0x2000 ≤ n && n ≤ 0x200a) || n == 0x2028 || n == 0x2029 || n == 0x202f ||
      n == 0x205f ||
    n == 0x3000

/-- The characters without the blanks that lead them. -/
def trimStart (cs : List Char) : List Char :=
  cs.dropWhile isBlank

/-- The characters without the blanks that end them. -/
def trimEnd (cs : List Char) : List Char :=
  (trimStart cs.reverse).reverse

/-- The text without the blanks on either side. -/
def trim (text : String) : String :=
  String.ofList (trimEnd (trimStart text.toList))

end TextTemplate.Text
