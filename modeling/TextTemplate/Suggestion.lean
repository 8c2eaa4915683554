import TextTemplate.Text.EditDistance

/-!
# Suggestions for mistyped names

A name that nobody knows is often a known name with a slip in it. Suggested are the
known names within one edit of a name of at most three bytes and within two edits of a
longer one: the three nearest, names at the same distance in the order of their texts.
-/

namespace TextTemplate

open TextTemplate.Text

/-- The most edits that a suggestion may be away from a name. -/
def suggestionReach (name : String) : Nat :=
  if name.utf8ByteSize ≤ 3 then 1 else 2

/-- Whether one suggestion stands before or beside another: the nearer first, then
by text. -/
def suggestionLe (a b : Nat × String) : Bool :=
  a.1 < b.1 || (a.1 == b.1 && a.2 ≤ b.2)

/-- The suggestions for a name among the known names. -/
def suggestions (name : String) (known : List String) : List String :=
  let near := (known.map fun candidate => (distance name candidate, candidate)).filter
    fun entry => 0 < entry.1 && entry.1 ≤ suggestionReach name
  (((near.mergeSort suggestionLe).eraseReps).take 3).map Prod.snd

end TextTemplate
