/-!
# Ranges of code points

Character properties are given as tables of code point ranges. This module holds the
range type and the membership test that every table is read through.
-/

namespace TextTemplate.Text

/-- The code points from the first number through the second. -/
abbrev CodeRange := Nat × Nat

/-- Whether some range of the table holds the character. -/
def within (table : Array CodeRange) (c : Char) : Bool :=
  table.any fun range => range.1 ≤ c.toNat && c.toNat ≤ range.2

end TextTemplate.Text
