import TextTemplate.Tag.Inheritance

/-!
# Nested tags

Some tags enclose tokens: they open at a block that bears their name and go on to a
block that closes them, and on the way blocks of certain other names may divide them
into sections. `Nested` says of a row of tokens that its tags enclose each other
properly, with every tag closed by a token of its own behind it. Which tokens close a
tag is a parameter, so that what a parser accepts can be compared with what it should.

Besides, looking ahead for the `endblock` of a block passes over nested tokens and comes
out where it went in.

## Main results

* `Nested.countOpenings_eq` — nested tokens open as many tags as they close.
* `Nested.superAhead_append` — looking ahead passes over nested tokens.
-/

namespace TextTemplate

namespace Token

/-- The name of the tag that a block belongs to. Tokens of other kinds have none. -/
def word? : Token → Option String
  | .block contents => (Token.block contents).name?
  | _ => none

/-- The words of tokens that belong to no tag, or to a tag that encloses nothing. -/
def loneWords : List (Option String) :=
  [none, some "include", some "now", some "extends"]

/-- The token belongs to no tag, or to a tag that encloses nothing. -/
def StandsAlone (token : Token) : Prop :=
  token.word? ∈ loneWords

/-- The words of tokens that neither open nor close a tag. -/
def idleWords : List (Option String) :=
  loneWords ++ [some "empty", some "elif", some "else"]

theorem StandsAlone.idle {token : Token} (h : token.StandsAlone) :
    token.word? ∈ idleWords :=
  List.mem_append_left [some "empty", some "elif", some "else"] h

/-- A token with a word is a block. -/
theorem eq_block_of_word? {token : Token} {word : String}
    (h : token.word? = some word) :
    ∃ contents, token = .block contents := by
  cases token with
  | block contents => exact ⟨contents, rfl⟩
  | text contents => cases h
  | output contents => cases h
  | comment contents => cases h

/-- The word of a token is its name. -/
private theorem name?_of_word? {token : Token} {word : String}
    (h : token.word? = some word) :
    token.name? = some word := by
  obtain ⟨contents, rfl⟩ := eq_block_of_word? h
  exact h

/-- A token with a word is named by it. -/
theorem isNamed_of_word? {token : Token} {word : String} (h : token.word? = some word)
    (names : List String) : token.isNamed names = decide (word ∈ names) := by
  rw [isNamed, name?_of_word? h, Option.any_some, List.contains_eq_mem]

/-- The word of a block is its first component. -/
theorem word?_of_components {contents word : String} {components : List String}
    (h : (Token.block contents).components = word :: components) :
    (Token.block contents).word? = some word := by
  show (Token.block contents).components.head? = some word
  rw [h]
  rfl

/-- A block that names a tag that encloses nothing stands alone. -/
theorem standsAlone_of_components {contents word : String} {components : List String}
    (h : (Token.block contents).components = word :: components)
    (hMem : some word ∈ loneWords) :
    (Token.block contents).StandsAlone := by
  rw [StandsAlone, word?_of_components h]
  exact hMem

end Token

/-- The tags that enclose tokens. -/
inductive Enclosure where
  | loop
  | choice
  | negatedChoice
  | filtered
  | block
  deriving DecidableEq, Repr

namespace Enclosure

/-- The name of the tag. -/
def word : Enclosure → String
  | loop => "for"
  | choice => "if"
  | negatedChoice => "ifnot"
  | filtered => "filter"
  | block => "block"

/-- The name that a token must bear to close the tag. -/
def closer : Enclosure → String
  | loop => "endfor"
  | choice => "endif"
  | negatedChoice => "endif"
  | filtered => "endfilter"
  | block => "endblock"

/-- A token that bears the name that closes the tag. -/
def Closes (tag : Enclosure) (token : Token) : Prop :=
  token.word? = some tag.closer

/-- The names, in order, of tokens that may divide the tag into sections. -/
def Divides : Enclosure → List (Option String) → Prop
  | loop, words => words = [] ∨ words = [some "empty"]
  | choice, words => ∃ count, words = List.replicate count (some "elif") ∨
      words = List.replicate count (some "elif") ++ [some "else"]
  | negatedChoice, words => words = [] ∨ words = [some "else"]
  | filtered, words => words = []
  | block, words => words = []

/-- Nothing need divide a tag. -/
theorem divides_nil (tag : Enclosure) : tag.Divides [] := by
  cases tag with
  | loop => exact .inl rfl
  | choice => exact ⟨0, .inl rfl⟩
  | negatedChoice => exact .inl rfl
  | filtered => rfl
  | block => rfl

/-- An `else` may follow any number of `elif`. -/
theorem divides_choice (count : Nat) {words : List (Option String)}
    (h : words = [] ∨ words = [some "else"]) :
    choice.Divides (List.replicate count (some "elif") ++ words) := by
  obtain rfl | rfl := h
  · exact ⟨count, .inl (List.append_nil _)⟩
  · exact ⟨count, .inr rfl⟩

theorem closes_block_closer (tag : Enclosure) : tag.Closes (.block tag.closer) := by
  cases tag <;> rfl

/-- A token that divides a tag neither opens nor closes one. -/
theorem Divides.idle {tag : Enclosure} {words : List (Option String)}
    (h : tag.Divides words) {word : Option String} (hMem : word ∈ words) :
    word ∈ Token.idleWords := by
  cases tag with
  | loop =>
      obtain rfl | rfl := h
      · cases hMem
      · exact List.mem_singleton.mp hMem ▸ by decide
  | choice =>
      obtain ⟨count, rfl | rfl⟩ := h
      · exact List.eq_of_mem_replicate hMem ▸ by decide
      · cases List.mem_append.mp hMem with
        | inl hElif => exact List.eq_of_mem_replicate hElif ▸ by decide
        | inr hElse => exact List.mem_singleton.mp hElse ▸ by decide
  | negatedChoice =>
      obtain rfl | rfl := h
      · cases hMem
      · exact List.mem_singleton.mp hMem ▸ by decide
  | filtered => cases h ▸ hMem
  | block => cases h ▸ hMem

end Enclosure

/-- A token that divides a tag, and the tokens behind it. -/
structure Section where
  divider : Token
  body : List Token

namespace Section

/-- The tokens of a section. -/
def tokens (part : Section) : List Token :=
  part.divider :: part.body

theorem flatMap_tokens_cons (part : Section) (rest : List Section) :
    (part :: rest).flatMap tokens = part.divider ::
      (part.body ++ rest.flatMap tokens) :=
  rfl

end Section

/-- Tokens whose tags enclose each other properly, if `closes` says which tokens close
a tag. -/
inductive Nested (closes : Enclosure → Token → Prop) : List Token → Prop where
  /-- No tokens at all. -/
  | nil : Nested closes []
  /-- A token that encloses nothing. -/
  | alone {token : Token} {rest : List Token} (hAlone : token.StandsAlone)
      (hRest : Nested closes rest) : Nested closes (token :: rest)
  /-- A tag with its sections and the token that closes it. -/
  | enclose {tag : Enclosure} {opening closing : Token} {body rest : List Token}
      {sections : List Section}
      (hOpening : opening.word? = some tag.word) (hBody : Nested closes body)
      (hDivides : tag.Divides (sections.map fun part => part.divider.word?))
      (hSections : ∀ part ∈ sections, Nested closes part.body)
      (hClosing : closes tag closing)
      (hRest : Nested closes rest) :
      Nested closes (opening ::
        (body ++ sections.flatMap Section.tokens ++ closing :: rest))

/-- Tokens that fall into sections behind tokens of the given words. -/
def Divided (closes : Enclosure → Token → Prop) (words : List (Option String))
    (tokens : List Token) :
    Prop :=
  ∃ sections : List Section, tokens = sections.flatMap Section.tokens ∧
    words = sections.map (fun part => part.divider.word?) ∧ ∀ part ∈ sections,
      Nested closes part.body

namespace Divided

variable {closes : Enclosure → Token → Prop} {words others : List (Option String)}
  {tokens more : List Token}

theorem nil : Divided closes [] [] :=
  ⟨[], rfl, rfl, fun _ hPart => absurd hPart List.not_mem_nil⟩

/-- A section and those behind it. -/
theorem cons {divider : Token} {word : String} {body : List Token}
    (hDivider : divider.word? = some word) (hBody : Nested closes body)
    (h : Divided closes words tokens) :
    Divided closes (some word :: words) (divider :: (body ++ tokens)) := by
  obtain ⟨sections, rfl, rfl, hSections⟩ := h
  refine ⟨⟨divider, body⟩ :: sections, rfl, ?_,
    List.forall_mem_cons.mpr ⟨hBody, hSections⟩⟩
  rw [List.map_cons, hDivider]

theorem append (h : Divided closes words tokens) (hMore : Divided closes others more) :
    Divided closes (words ++ others) (tokens ++ more) := by
  obtain ⟨sections, rfl, rfl, hSections⟩ := h
  obtain ⟨behind, rfl, rfl, hBehind⟩ := hMore
  refine ⟨sections ++ behind, List.flatMap_append.symm, List.map_append.symm,
    fun part hPart => ?_⟩
  exact (List.mem_append.mp hPart).elim (hSections part) (hBehind part)

end Divided

/-- What a tag encloses, through the token that closes it. -/
inductive Encloses (closes : Enclosure → Token → Prop) (tag : Enclosure) :
    List Token → Prop where
  | intro {body divided : List Token} {words : List (Option String)} {closing : Token}
      (hBody : Nested closes body) (hDivided : Divided closes words divided)
      (hDivides : tag.Divides words) (hClosing : closes tag closing) :
      Encloses closes tag (body ++ (divided ++ [closing]))

namespace Encloses

variable {closes : Enclosure → Token → Prop} {tag : Enclosure}

/-- A tag may enclose tokens that nothing divides. -/
theorem whole {body : List Token} {closing : Token} (hBody : Nested closes body)
    (hClosing : closes tag closing) : Encloses closes tag (body ++ [closing]) :=
  intro hBody .nil tag.divides_nil hClosing

/-- A tag with what it encloses and nested tokens behind it are nested. -/
theorem nested {opening : Token} {inner rest : List Token}
    (h : Encloses closes tag inner) (hOpening : opening.word? = some tag.word)
    (hRest : Nested closes rest) :
    Nested closes (opening :: (inner ++ rest)) := by
  obtain ⟨hBody, ⟨sections, rfl, rfl, hSections⟩, hDivides, hClosing⟩ := h
  have hNested := Nested.enclose hOpening hBody hDivides hSections hClosing hRest
  simpa using hNested

end Encloses

namespace Nested

variable {closes others : Enclosure → Token → Prop} {tokens more : List Token}

/-- Nested tokens stay nested with nested tokens behind them. -/
theorem append (h : Nested closes tokens) (hMore : Nested closes more) :
    Nested closes (tokens ++ more) := by
  induction h with
  | nil => exact hMore
  | alone hAlone _ ih => exact .alone hAlone ih
  | enclose hOpening hBody hDivides hSections hClosing _ _ _ ih =>
      have hNested := enclose hOpening hBody hDivides hSections hClosing ih
      simpa only [List.cons_append, List.append_assoc] using hNested

/-- It only matters which of the tokens at hand close tags. -/
theorem imp (h : Nested closes tokens)
    (hImp : ∀ token ∈ tokens, ∀ tag, closes tag token → others tag token) :
    Nested others tokens := by
  induction h with
  | nil => exact .nil
  | alone hAlone _ ih =>
      exact .alone hAlone (ih fun token hMem =>
        hImp token (List.mem_cons_of_mem _ hMem))
  | @enclose tag opening closing body rest sections hOpening _ hDivides _ hClosing
      _ ihBody ihSections ihRest =>
      refine .enclose hOpening (ihBody fun token hMem => hImp token ?_) hDivides
        (fun part hPart => ihSections part hPart fun token hMem => hImp token ?_)
        (hImp closing ?_ tag hClosing) (ihRest fun token hMem => hImp token ?_)
      · simp [hMem]
      · have hInside : token ∈ sections.flatMap Section.tokens :=
          List.mem_flatMap.mpr ⟨part, hPart, List.mem_cons_of_mem _ hMem⟩
        simp [hInside]
      · simp
      · simp [hMem]

end Nested

/-! ## Counting -/

namespace Enclosure

/-- Whether a word opens a tag that is closed by the same name as the given one. -/
def opens (tag : Enclosure) (opening : Option String) : Bool :=
  [loop, choice, negatedChoice, filtered, block].any fun other =>
    other.closer = tag.closer ∧ opening = some other.word

theorem opens_word (tag other : Enclosure) :
    tag.opens (some other.word) = decide (other.closer = tag.closer) := by
  cases tag <;> cases other <;> decide

theorem opens_closer (tag other : Enclosure) :
    tag.opens (some other.closer) = false := by
  cases tag <;> cases other <;> decide

theorem closer_ne_word (tag other : Enclosure) : tag.closer ≠ other.word := by
  cases tag <;> cases other <;> decide

theorem opens_of_idle (tag : Enclosure) :
    ∀ word ∈ Token.idleWords, tag.opens word = false := by
  cases tag <;> decide

theorem closer_notMem_idleWords (tag : Enclosure) :
    some tag.closer ∉ Token.idleWords := by
  cases tag <;> decide

/-- How many tokens open a tag that is closed by the same name as the given one. -/
def countOpenings (tag : Enclosure) (tokens : List Token) : Nat :=
  tokens.countP fun token => tag.opens token.word?

/-- How many tokens bear the name that closes the tag. -/
def countClosings (tag : Enclosure) (tokens : List Token) : Nat :=
  tokens.countP fun token => token.word? = some tag.closer

/-- Tokens that neither open nor close a tag do not count. -/
theorem count_cons_of_idle (tag : Enclosure) {token : Token}
    (hIdle : token.word? ∈ Token.idleWords) (rest : List Token) :
    tag.countOpenings (token :: rest) = tag.countOpenings rest ∧
      tag.countClosings (token :: rest) = tag.countClosings rest := by
  have hOpens : ¬ tag.opens token.word? = true := by simp [tag.opens_of_idle _ hIdle]
  have hCloses : ¬ decide (token.word? = some tag.closer) = true := by
    rw [decide_eq_true_eq]
    exact fun h => tag.closer_notMem_idleWords (h ▸ hIdle)
  exact ⟨List.countP_cons_of_neg hOpens, List.countP_cons_of_neg hCloses⟩

end Enclosure

/-- Nested tokens open as many tags as they close. -/
theorem Nested.countOpenings_eq (tag : Enclosure) {tokens : List Token}
    (h : Nested Enclosure.Closes tokens) :
    tag.countOpenings tokens = tag.countClosings tokens := by
  induction h with
  | nil => rfl
  | @alone token rest hAlone _ ih =>
      obtain ⟨hOpenings, hClosings⟩ := tag.count_cons_of_idle hAlone.idle rest
      rw [hOpenings, hClosings, ih]
  | @enclose other opening closing body rest sections hOpening _ hDivides _ hClosing
      _ ihBody ihSections ihRest =>
      have hParts : tag.countOpenings (sections.flatMap Section.tokens) =
          tag.countClosings (sections.flatMap Section.tokens) := by
        unfold Enclosure.countOpenings Enclosure.countClosings
        rw [List.countP_flatMap, List.countP_flatMap]
        refine congrArg List.sum (List.map_congr_left fun part hPart => ?_)
        obtain ⟨hOpenings, hClosings⟩ := tag.count_cons_of_idle
          (hDivides.idle (List.mem_map_of_mem hPart)) part.body
        exact hOpenings.trans ((ihSections part hPart).trans hClosings.symm)
      unfold Enclosure.countOpenings Enclosure.countClosings at ihBody ihRest hParts ⊢
      have hCloser : closing.word? = some other.closer := hClosing
      simp only [List.countP_cons, List.countP_append, hOpening, hCloser, ihBody,
        ihRest, hParts, tag.opens_word, tag.opens_closer, Option.some.injEq,
        decide_eq_true_eq, Bool.false_eq_true, if_false,
        (tag.closer_ne_word other).symm]
      omega

/-! ## Looking ahead -/

namespace Tag

/-- Behind a token that neither opens nor closes a block there are as many blocks open
as before. -/
private theorem depthAfter_of_word? {token : Token}
    (hOpens : token.word? ≠ some "block") (hCloses : token.word? ≠ some "endblock")
    (depth : Nat) : depthAfter depth token = some depth := by
  cases token with
  | block contents =>
      cases hWord : (Token.block contents).word? with
      | none =>
          have hNot : ∀ names, (Token.block contents).isNamed names = false := by
            intro names
            show (Token.block contents).word?.any names.contains = false
            rw [hWord]
            rfl
          simp only [depthAfter, hNot, Bool.false_eq_true, if_false]
      | some word =>
          have hOther : word ≠ "block" ∧ word ≠ "endblock" := by
            simpa [hWord] using And.intro hOpens hCloses
          simp [depthAfter, Token.isNamed_of_word? hWord, hOther]
  | text contents => rfl
  | output contents => rfl
  | comment contents => rfl

private theorem depthAfter_opening {token : Token} (h : token.word? = some "block")
    (depth : Nat) :
    depthAfter depth token = some (depth + 1) := by
  obtain ⟨contents, rfl⟩ := Token.eq_block_of_word? h
  simp [depthAfter, Token.isNamed_of_word? h]

private theorem depthAfter_closing {token : Token} (h : token.word? = some "endblock")
    (depth : Nat) :
    depthAfter (depth + 1) token = some depth := by
  obtain ⟨contents, rfl⟩ := Token.eq_block_of_word? h
  simp [depthAfter, Token.isNamed_of_word? h]

private theorem depthAfter_of_idle {token : Token} (h : token.word? ∈ Token.idleWords)
    (depth : Nat) :
    depthAfter depth token = some depth :=
  depthAfter_of_word? (fun hWord => absurd (hWord ▸ h) (by decide))
    (fun hWord => absurd (hWord ▸ h) (by decide)) depth

/-- Only blocks count among the tags that are open. A tag of another kind may end at a
token that neither opens nor closes one. -/
private theorem depthAfter_enclosure {tag : Enclosure} {opening closing : Token}
    (hOpening : opening.word? = some tag.word)
    (hClosing : tag.Closes closing ∨ tag ≠ .block ∧ closing.word? ∈ Token.idleWords)
    (depth : Nat) :
    ∃ inner, depthAfter depth opening = some inner ∧
      depthAfter inner closing = some depth := by
  by_cases hTag : tag = .block
  · subst hTag
    have hCloser : closing.word? = some "endblock" :=
      hClosing.resolve_right fun h => h.1 rfl
    exact ⟨depth + 1, depthAfter_opening hOpening depth,
      depthAfter_closing hCloser depth⟩
  · have hOpens : depthAfter depth opening = some depth := by
      refine depthAfter_of_word? ?_ ?_ depth
      all_goals
        rw [hOpening]
        cases tag <;> first | exact absurd rfl hTag | decide
    refine ⟨depth, hOpens, ?_⟩
    rcases hClosing with hCloser | ⟨-, hIdle⟩
    · refine depthAfter_of_word? ?_ ?_ depth
      all_goals
        rw [show closing.word? = some tag.closer from hCloser]
        cases tag <;> first | exact absurd rfl hTag | decide
    · exact depthAfter_of_idle hIdle depth

theorem superAhead_cons {depth after : Nat} {token : Token}
    (h : depthAfter depth token = some after) (rest : List Token) :
    superAhead depth (token :: rest) =
      (mentionsSuper token || superAhead after rest) := by
  simp only [superAhead, h]

/-- Looking ahead comes to an end at the token that closes the block. -/
theorem superAhead_closing {token : Token} (h : token.word? = some "endblock")
    (rest : List Token) :
    superAhead 0 (token :: rest) = false := by
  obtain ⟨contents, rfl⟩ := Token.eq_block_of_word? h
  simp [superAhead, depthAfter, Token.isNamed_of_word? h]

/-- Looking ahead passes over sections if it passes over their bodies. -/
private theorem superAhead_sections {depth : Nat} {sections : List Section}
    (hIdle : ∀ part ∈ sections, part.divider.word? ∈ Token.idleWords)
    (hBodies : ∀ part ∈ sections, ∀ more,
      superAhead depth (part.body ++ more) =
        (part.body.any mentionsSuper || superAhead depth more)) (more : List Token) :
    superAhead depth (sections.flatMap Section.tokens ++ more) =
      ((sections.flatMap Section.tokens).any mentionsSuper ||
        superAhead depth more) := by
  induction sections with
  | nil => rfl
  | cons part rest ih =>
      have hRest := ih (fun other hMem => hIdle other (List.mem_cons_of_mem _ hMem))
        (fun other hMem => hBodies other (List.mem_cons_of_mem _ hMem))
      have hDivider := depthAfter_of_idle (hIdle part List.mem_cons_self) depth
      simp only [Section.flatMap_tokens_cons, List.cons_append, List.append_assoc,
        superAhead_cons hDivider, hBodies part List.mem_cons_self, hRest, List.any_cons,
        List.any_append, Bool.or_assoc]

end Tag

/-- Looking ahead passes over nested tokens, if what ends a tag closes it or means
nothing to a block. -/
theorem Nested.superAhead_append {closes : Enclosure → Token → Prop}
    {tokens : List Token}
    (hCloses : ∀ {tag token}, closes tag token →
      tag.Closes token ∨ tag ≠ .block ∧ token.word? ∈ Token.idleWords)
    (h : Nested closes tokens) (depth : Nat) (more : List Token) :
    Tag.superAhead depth (tokens ++ more) =
      (tokens.any Tag.mentionsSuper || Tag.superAhead depth more) := by
  induction h generalizing depth more with
  | nil => rfl
  | alone hAlone _ ih =>
      rw [List.cons_append,
        Tag.superAhead_cons (Tag.depthAfter_of_idle hAlone.idle depth), ih,
        List.any_cons, Bool.or_assoc]
  | enclose hOpening _ hDivides _ hClosing _ ihBody ihSections ihRest =>
      obtain ⟨inner, hIn, hOut⟩ :=
        Tag.depthAfter_enclosure hOpening (hCloses hClosing) depth
      have hSections := Tag.superAhead_sections
        (fun part hPart => hDivides.idle (List.mem_map_of_mem hPart))
        (fun part hPart => ihSections part hPart inner)
      simp only [List.cons_append, List.append_assoc, Tag.superAhead_cons hIn, ihBody,
        hSections, Tag.superAhead_cons hOut, ihRest, List.any_cons, List.any_append,
        Bool.or_assoc]

end TextTemplate
