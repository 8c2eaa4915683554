import TextTemplate.Text.ClusterTable

/-!
# User-perceived characters

A reader takes a letter with its accents, a syllable block, a flag or a family of joined
pictographs for one character. `cutCluster` takes the first such cluster off a text. The
boundary rules compare the character before a gap with the one after it; three of them
also need what came earlier, namely the number of flag letters so far, whether a
pictograph and a joiner precede, and whether an Indic consonant with a linker precedes.
`Reach` carries exactly that memory.
-/

namespace TextTemplate.Text

/-- The role a character plays at a cluster boundary. -/
inductive BoundaryClass where
  | carriageReturn
  | lineFeed
  | control
  | extend
  | joiner
  | flagLetter
  | prepend
  | spacingMark
  | leadingJamo
  | vowelJamo
  | trailingJamo
  | openSyllable
  | closedSyllable
  | other
  deriving DecidableEq

/-- The role of a character. -/
def boundaryClass (c : Char) : BoundaryClass :=
  let n := c.toNat
  if n == 0xd then .carriageReturn
  else if n == 0xa then .lineFeed
  else if 0x20 ≤ n && n < 0x7f then .other
  else if n == 0x200d then .joiner
  else if within controlRanges c then .control
  else if within extendRanges c || (0x1f3fb ≤ n && n ≤ 0x1f3ff) then .extend
  else if 0x1f1e6 ≤ n && n ≤ 0x1f1ff then .flagLetter
  else if within prependRanges c then .prepend
  else if within spacingMarkRanges c then .spacingMark
  else if (0x1100 ≤ n && n ≤ 0x115f) || (0xa960 ≤ n && n ≤ 0xa97c) then .leadingJamo
  else if (0x1160 ≤ n && n ≤ 0x11a7) || (0xd7b0 ≤ n && n ≤ 0xd7c6) then .vowelJamo
  else if (0x11a8 ≤ n && n ≤ 0x11ff) || (0xd7cb ≤ n && n ≤ 0xd7fb) then .trailingJamo
  else if 0xac00 ≤ n && n ≤ 0xd7a3 then
    if (n - 0xac00) % 28 == 0 then .openSyllable else .closedSyllable
  else .other

/-- What a boundary decision remembers of the cluster so far. -/
structure Reach where
  /-- The role of the last character. -/
  last : BoundaryClass
  /-- Whether the cluster ends in an odd number of flag letters. -/
  oddFlags : Bool
  /-- Whether it ends in a pictograph with any number of extending marks. -/
  pictograph : Bool
  /-- Whether it ends in such a pictograph and a joiner. -/
  pictographJoined : Bool
  /-- Whether it ends in an Indic consonant with any marks. -/
  consonant : Bool
  /-- Whether those marks include a linker. -/
  consonantLinked : Bool

namespace Reach

/-- The memory after a first character. -/
def start (c : Char) : Reach where
  last := boundaryClass c
  oddFlags := boundaryClass c == .flagLetter
  pictograph := within pictographRanges c
  pictographJoined := false
  consonant := within indicConsonantRanges c
  consonantLinked := false

/-- The memory after one more character of the same cluster. -/
def push (reach : Reach) (c : Char) : Reach :=
  let role := boundaryClass c
  let isMark := role == .extend || role == .joiner
  let isConsonant := within indicConsonantRanges c
  { last := role
    oddFlags := role == .flagLetter && !reach.oddFlags
    pictograph := within pictographRanges c || (reach.pictograph && role == .extend)
    pictographJoined := reach.pictograph && role == .joiner
    consonant := isConsonant || (reach.consonant && isMark && c.toNat != 0x200c)
    consonantLinked :=
      !isConsonant && reach.consonant &&
        (within indicLinkerRanges c ||
          (reach.consonantLinked && isMark && c.toNat != 0x200c)) }

/-- Whether the next character belongs to the same cluster. -/
def joins (reach : Reach) (c : Char) : Bool :=
  let role := boundaryClass c
  match reach.last, role with
  | .carriageReturn, .lineFeed => true
  | .carriageReturn, _ => false
  | .lineFeed, _ => false
  | .control, _ => false
  | _, .carriageReturn => false
  | _, .lineFeed => false
  | _, .control => false
  | _, .extend => true
  | _, .joiner => true
  | _, .spacingMark => true
  | .prepend, _ => true
  | .leadingJamo, .leadingJamo => true
  | .leadingJamo, .vowelJamo => true
  | .leadingJamo, .openSyllable => true
  | .leadingJamo, .closedSyllable => true
  | .openSyllable, .vowelJamo => true
  | .openSyllable, .trailingJamo => true
  | .vowelJamo, .vowelJamo => true
  | .vowelJamo, .trailingJamo => true
  | .closedSyllable, .trailingJamo => true
  | .trailingJamo, .trailingJamo => true
  | .flagLetter, .flagLetter => reach.oddFlags
  | _, _ =>
    (reach.pictographJoined && within pictographRanges c) ||
      (reach.consonantLinked && within indicConsonantRanges c)

end Reach

/-- Extends a cluster as far as it reaches, and gives what follows it. -/
def extendCluster (reach : Reach) : List Char → List Char × List Char
  | [] => ([], [])
  | c :: rest =>
    if reach.joins c then
      let (cluster, after) := extendCluster (reach.push c) rest
      (c :: cluster, after)
    else ([], c :: rest)

/-- The first user-perceived character and the rest. -/
def cutCluster : List Char → List Char × List Char
  | [] => ([], [])
  | c :: rest =>
    let (cluster, after) := extendCluster (Reach.start c) rest
    (c :: cluster, after)

end TextTemplate.Text
