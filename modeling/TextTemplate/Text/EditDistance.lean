/-!
# Edit distance

The least number of insertions, deletions and replacements of single characters that
turn one text into another. The recursion states the measure directly; `distance`
computes it row by row, so that comparing two names costs the product of their lengths.
-/

namespace TextTemplate.Text

/-- The next row of the table: the distances from `c` after the characters so far to
every beginning of `target`, where `diagonal` and `above` come from the previous row and
`left` is the entry before. -/
def nextRow (c : Char) (left diagonal : Nat) : List Char → List Nat → List Nat
  | d :: target, above :: rest =>
    let entry := min (min (left + 1) (above + 1)) (if c == d then diagonal
      else diagonal + 1)
    entry :: nextRow c entry above target rest
  | _, _ => []

/-- The last entry of the table whose current row is `first :: row`. -/
def lastEntry (target : List Char) (first : Nat) (row : List Nat) : List Char → Nat
  | [] => (first :: row).getLast (by simp)
  | c :: source =>
    lastEntry target (first + 1) (nextRow c (first + 1) first target row) source

/-- The edit distance between two lists of characters. -/
def distanceChars (source target : List Char) : Nat :=
  lastEntry target 0 ((List.range target.length).map (· + 1)) source

/-- The edit distance between two texts. -/
def distance (source target : String) : Nat :=
  distanceChars source.toList target.toList

end TextTemplate.Text
