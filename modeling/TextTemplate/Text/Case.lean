import TextTemplate.Text.CaseTable

/-!
# Capital and small letters

Case conversion of whole texts. A letter may turn into several characters, so conversion
works on lists, and one rule looks at its surroundings: the Greek capital sigma becomes
the final small sigma at the end of a word, that is, after a letter and before no
letter, where characters that words pass over (marks, apostrophes) do not count.
-/

namespace TextTemplate.Text

/-- The converted form of one character: its expansion, its partner in a run, or
itself. -/
def convertCase (runs : Array CaseRun) (expansions : Array (Nat × List Nat))
    (c : Char) :
    List Char :=
  match expansions.find? fun entry => entry.1 == c.toNat with
  | some entry => entry.2.map Char.ofNat
  | none =>
    match runs.find? fun run => run.covers c.toNat with
    | some run => [Char.ofNat (run.partner c.toNat)]
    | none => [c]

/-- The capital form of one character. -/
def upperChar (c : Char) : List Char :=
  if c.toNat < 0x80 then [c.toUpper] else convertCase upperRuns upperExpansions c

/-- The small form of one character, without regard to its surroundings. -/
def lowerChar (c : Char) : List Char :=
  if c.toNat < 0x80 then [c.toLower] else convertCase lowerRuns lowerExpansions c

/-- Whether, past the characters that words pass over, a letter comes first. -/
def startsCased (cs : List Char) : Bool :=
  match cs.dropWhile (within caseIgnorableRanges) with
  | [] => false
  | c :: _ => within casedRanges c

/-- The small form of `rest`, where `before` holds the characters already passed,
nearest first. -/
def lowerFrom (before : List Char) : List Char → List Char
  | [] => []
  | c :: rest =>
    let form :=
      if c == 'Σ' then
        if startsCased before && !startsCased rest then ['ς'] else ['σ']
      else lowerChar c
    form ++ lowerFrom (c :: before) rest

/-- The characters in capital form. -/
def upperChars (cs : List Char) : List Char :=
  cs.flatMap upperChar

/-- The characters in small form. -/
def lowerChars (cs : List Char) : List Char :=
  lowerFrom [] cs

/-- The text in capital letters. -/
def upper (text : String) : String :=
  String.ofList (upperChars text.toList)

/-- The text in small letters. -/
def lower (text : String) : String :=
  String.ofList (lowerChars text.toList)

end TextTemplate.Text
