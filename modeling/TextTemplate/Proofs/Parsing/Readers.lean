import TextTemplate.Extension
import TextTemplate.Proofs.Parsing.Body
import TextTemplate.Proofs.Token.Nesting

/-!
# What tags read

For each tag of the standard extension, what it takes for its reader to succeed: which
bodies are parsed up to which tokens, what is compiled, and the node that is made of it.
Every reader is opened here once, and only here; what is proved about parsing later is
proved from these statements.

## Main results

* `Tag.run_readLoop_eq_ok_iff`, `Tag.run_readChoice_eq_ok_iff` and their like — one for
  each tag.
-/

namespace TextTemplate.Tag

open Reading

variable {find : FilterFinder} {token : Token} {bodies : BodyParser}
  {queue rest : List Token}
  {node : Node}

/-- A body and the token that closes it. -/
theorem run_closed_eq_ok_iff {names : List String} {closing : String}
    {nodes : List Node} :
    (do
      let body ← bodyUntil names
      let _ ← close closing
      return body : Reading (List Node)).run bodies queue = .ok nodes rest ↔
      ∃ last, bodies (Token.isNamed names) queue = .ok nodes (last :: rest) := by
  simp only [run_bind_eq_ok_iff, run_bodyUntil, run_close_eq_ok_iff, run_pure_eq_ok_iff]
  constructor
  · rintro ⟨body, middle, hBody, last, _, rfl, rfl, rfl⟩
    exact ⟨last, hBody⟩
  · rintro ⟨last, hBody⟩
    exact ⟨nodes, last :: rest, hBody, last, rest, rfl, rfl, rfl⟩

/-! ## Loops -/

theorem run_readEmpty_eq_ok_iff {terminator : Token} {empty : List Node} :
    (readEmpty terminator).run bodies queue = .ok empty rest ↔
      (terminator.contents = "empty" ∧
        ∃ last, bodies (Token.isNamed ["endfor"]) queue = .ok empty (last :: rest)) ∨
      (terminator.contents ≠ "empty" ∧ empty = [] ∧ queue = rest) := by
  unfold readEmpty
  split
  · rename_i hEmpty
    rw [run_closed_eq_ok_iff]
    simp [hEmpty]
  · rename_i hClosed
    rw [run_pure_eq_ok_iff]
    simp [hClosed, eq_comm]

theorem run_readLoop_eq_ok_iff :
    (readLoop find token).run bodies queue = .ok node rest ↔
      ∃ header body terminator middle empty source condition,
        LoopHeader.ofComponents? token.components = some header ∧
        bodies (Token.isNamed ["endfor", "empty"]) queue =
          .ok body (terminator :: middle) ∧
        (readEmpty terminator).run bodies middle = .ok empty rest ∧
        Operand.compile find header.source = .ok source ∧
        compileCondition find header.condition = .ok condition ∧
        node = .loop header.names source condition body empty := by
  unfold readLoop
  cases LoopHeader.ofComponents? token.components with
  | none => simp
  | some header =>
      simp only [run_bind_eq_ok_iff, run_bodyUntil, run_close_eq_ok_iff,
        run_ofExcept_eq_ok_iff, run_pure_eq_ok_iff]
      constructor
      · rintro ⟨body, _, hBody, terminator, middle, rfl, empty, left, hEmpty, source, _,
          ⟨hSource, rfl⟩, condition, _, ⟨hCondition, rfl⟩, rfl, rfl⟩
        exact ⟨header, body, terminator, middle, empty, source, condition, rfl, hBody,
          hEmpty, hSource, hCondition, rfl⟩
      · rintro ⟨_, body, terminator, middle, empty, source, condition, hHeader, hBody,
          hEmpty, hSource, hCondition, rfl⟩
        cases hHeader
        exact ⟨body, _, hBody, terminator, middle, rfl, empty, rest, hEmpty,
          source, rest, ⟨hSource, rfl⟩, condition, rest, ⟨hCondition, rfl⟩, rfl, rfl⟩

/-! ## Choices -/

theorem run_readBranch_eq_ok_iff {branch : Branch Node} :
    (readBranch find token).run bodies queue = .ok branch rest ↔
      ∃ condition body, Condition.parse find (token.components.drop 1) = .ok condition ∧
        bodies (Token.isNamed ["endif", "elif", "else"]) queue = .ok body rest ∧
        branch = ⟨some condition, body⟩ := by
  unfold readBranch readCondition
  simp only [run_bind_eq_ok_iff, run_bodyUntil, run_ofExcept_eq_ok_iff,
    run_pure_eq_ok_iff]
  constructor
  · rintro ⟨condition, _, ⟨hCondition, rfl⟩, body, _, hBody, rfl, rfl⟩
    exact ⟨condition, body, hCondition, hBody, rfl⟩
  · rintro ⟨condition, body, hCondition, hBody, rfl⟩
    exact ⟨condition, queue, ⟨hCondition, rfl⟩, body, rest, hBody, rfl, rfl⟩

/-- At an `elif` a branch is read and, behind it, the branches that follow. -/
theorem run_readAlternatives_of_elif {round : Token} {rounds : List Token}
    (hNamed : token.isNamed ["elif"] = true) {branches : List (Branch Node)}
    {last : Option Token} :
    (readAlternatives find (round :: rounds) (some token)).run bodies queue =
      .ok (branches, last) rest ↔
      ∃ branch middle more, (readBranch find token).run bodies queue =
        .ok branch middle ∧
        (readAlternatives find rounds middle.head?).run bodies middle.tail =
          .ok (more, last) rest ∧
        branches = branch :: more := by
  simp only [readAlternatives, hNamed, if_true, run_bind_eq_ok_iff, run_next_eq_ok_iff,
    run_pure_eq_ok_iff]
  constructor
  · rintro ⟨branch, middle, hBranch, _, _, ⟨rfl, rfl⟩, ⟨more, found⟩, _,
      hMore, hPair, rfl⟩
    cases hPair
    exact ⟨branch, middle, more, hBranch, hMore, rfl⟩
  · rintro ⟨branch, middle, more, hBranch, hMore, rfl⟩
    exact ⟨branch, middle, hBranch, _, _, ⟨rfl, rfl⟩, (more, last), rest,
      hMore, rfl, rfl⟩

/-- Without a round no branch is read. -/
theorem run_readAlternatives_nil {terminator last : Option Token}
    {branches : List (Branch Node)} :
    (readAlternatives find [] terminator).run bodies queue = .ok (branches, last) rest ↔
      branches = [] ∧ last = terminator ∧ rest = queue := by
  simp only [readAlternatives, run_pure_eq_ok_iff, Prod.mk.injEq]
  simp [eq_comm, and_assoc]

/-- Anywhere else there are no more branches. -/
theorem run_readAlternatives_of_not_elif {rounds : List Token}
    {terminator : Option Token}
    (hNot : ∀ token, terminator = some token → token.isNamed ["elif"] = false)
    {branches : List (Branch Node)} {last : Option Token} :
    (readAlternatives find rounds terminator).run bodies queue =
      .ok (branches, last) rest ↔
      branches = [] ∧ last = terminator ∧ rest = queue := by
  unfold readAlternatives
  split
  · rename_i token
    simp only [hNot token rfl, Bool.false_eq_true, if_false, run_pure_eq_ok_iff,
      Prod.mk.injEq]
    simp [eq_comm, and_assoc]
  · simp only [run_pure_eq_ok_iff, Prod.mk.injEq]
    simp [eq_comm, and_assoc]

theorem run_readOtherwise_eq_ok_iff {terminator last : Option Token}
    {branches : List (Branch Node)} :
    (readOtherwise terminator).run bodies queue = .ok (branches, last) rest ↔
      (terminator.any (fun token => token.contents = "else") = true ∧
        ∃ body middle, bodies (Token.isNamed ["endif"]) queue = .ok body middle ∧
          branches = [⟨none, body⟩] ∧ last = middle.head? ∧ rest = middle.tail) ∨
      (terminator.any (fun token => token.contents = "else") = false ∧
        branches = [] ∧ last = terminator ∧ rest = queue) := by
  unfold readOtherwise
  cases terminator.any fun token => token.contents = "else" with
  | true =>
      simp only [if_true, run_bind_eq_ok_iff, run_bodyUntil, run_next_eq_ok_iff,
        run_pure_eq_ok_iff, true_and, Bool.true_eq_false, false_and, or_false]
      constructor
      · rintro ⟨body, middle, hBody, _, _, ⟨rfl, rfl⟩, hPair, rfl⟩
        cases hPair
        exact ⟨body, middle, hBody, rfl, rfl, rfl⟩
      · rintro ⟨body, middle, hBody, rfl, rfl, rfl⟩
        exact ⟨body, middle, hBody, _, _, ⟨rfl, rfl⟩, rfl, rfl⟩
  | false =>
      simp only [Bool.false_eq_true, if_false, run_pure_eq_ok_iff, Prod.mk.injEq,
        false_and, true_and, false_or]
      simp [eq_comm, and_assoc]

theorem run_readChoice_eq_ok_iff :
    (readChoice find token).run bodies queue = .ok node rest ↔
      ∃ first middle alternatives next later otherwise closing,
        (readBranch find token).run bodies queue = .ok first middle ∧
        (readAlternatives find (token :: middle.tail) middle.head?).run bodies
          middle.tail =
          .ok (alternatives, next) later ∧
        (readOtherwise next).run bodies later = .ok (otherwise, some closing) rest ∧
        closing.contents = "endif" ∧
          node = .choice (first :: alternatives ++ otherwise) := by
  unfold readChoice
  simp only [run_bind_eq_ok_iff, run_next_eq_ok_iff, run_rest_eq_ok_iff]
  constructor
  · rintro ⟨first, middle, hFirst, _, _, ⟨rfl, rfl⟩, _, _, ⟨rfl, rfl⟩,
      ⟨alternatives, next⟩, later, hAlternatives, ⟨otherwise, last⟩, left,
        hOtherwise, hEnd⟩
    split at hEnd
    · rename_i hClosing
      obtain ⟨rfl, rfl⟩ := run_pure_eq_ok_iff.mp hEnd
      cases last with
      | none => cases hClosing
      | some closing =>
          exact ⟨first, middle, alternatives, next, later, otherwise, closing, hFirst,
            hAlternatives, hOtherwise, of_decide_eq_true hClosing, rfl⟩
    · exact absurd hEnd run_fault_ne_ok
  · rintro ⟨first, middle, alternatives, next, later, otherwise, closing, hFirst,
      hAlternatives, hOtherwise, hContents, rfl⟩
    refine ⟨first, middle, hFirst, _, _, ⟨rfl, rfl⟩, _, _, ⟨rfl, rfl⟩,
      (alternatives, next), later, hAlternatives, (otherwise, some closing), rest,
        hOtherwise, ?_⟩
    simp [hContents]

theorem run_readHolding_eq_ok_iff {terminator : Token} {holding : List Node} :
    (readHolding terminator).run bodies queue = .ok holding rest ↔
      (terminator.contents = "else" ∧
        ∃ last, bodies (Token.isNamed ["endif"]) queue = .ok holding (last :: rest)) ∨
      (terminator.contents ≠ "else" ∧ holding = [] ∧ queue = rest) := by
  unfold readHolding
  split
  · rename_i hElse
    rw [run_closed_eq_ok_iff]
    simp [hElse]
  · rename_i hClosed
    rw [run_pure_eq_ok_iff]
    simp [hClosed, eq_comm]

theorem run_readNegatedChoice_eq_ok_iff :
    (readNegatedChoice find token).run bodies queue = .ok node rest ↔
      ∃ failing terminator middle holding condition,
        token.components.length = 2 ∧
        bodies (Token.isNamed ["endif", "else"]) queue =
          .ok failing (terminator :: middle) ∧
        (readHolding terminator).run bodies middle = .ok holding rest ∧
        Condition.parse find (token.components.drop 1) = .ok condition ∧
        node = .choice [⟨some condition, holding⟩, ⟨none, failing⟩] := by
  unfold readNegatedChoice readCondition
  split
  · rename_i hLength
    constructor
    · exact fun h => absurd h run_fault_ne_ok
    · rintro ⟨_, _, _, _, _, hTwo, -⟩
      exact absurd hTwo hLength
  · rename_i hLength
    simp only [run_bind_eq_ok_iff, run_bodyUntil, run_close_eq_ok_iff,
      run_ofExcept_eq_ok_iff, run_pure_eq_ok_iff]
    constructor
    · rintro ⟨failing, _, hFailing, terminator, middle, rfl, holding, left, hHolding,
        condition, _, ⟨hCondition, rfl⟩, rfl, rfl⟩
      exact ⟨failing, terminator, middle, holding, condition,
        Decidable.not_not.mp hLength, hFailing, hHolding, hCondition, rfl⟩
    · rintro ⟨failing, terminator, middle, holding, condition, -, hFailing, hHolding,
        hCondition, rfl⟩
      exact ⟨failing, _, hFailing, terminator, middle, rfl, holding, rest, hHolding,
        condition, rest, ⟨hCondition, rfl⟩, rfl, rfl⟩

/-- A negated choice whose bodies are read compiles its condition at last. -/
theorem run_readNegatedChoice_of_bodies (find : FilterFinder) (token : Token)
    {failing holding : List Node} {terminator : Token} {middle : List Token}
    (hComponents : token.components.length = 2)
    (hFailing : bodies (Token.isNamed ["endif", "else"]) queue =
      .ok failing (terminator :: middle))
    (hHolding : (readHolding terminator).run bodies middle = .ok holding rest) :
    (readNegatedChoice find token).run bodies queue =
      match Condition.parse find (token.components.drop 1) with
      | .ok condition => .ok (.choice [⟨some condition, holding⟩, ⟨none, failing⟩]) rest
      | .error error => .error error rest := by
  have hBody : (bodyUntil ["endif", "else"]).run bodies queue =
      .ok failing (terminator :: middle) :=
    (run_bodyUntil _).trans hFailing
  have hClose : (close "endif").run bodies (terminator :: middle) =
      .ok terminator middle :=
    run_close_eq_ok_iff.mpr rfl
  rw [readNegatedChoice, if_neg (Decidable.not_not.mpr hComponents),
    run_bind_of_ok hBody, run_bind_of_ok hClose, run_bind_of_ok hHolding, readCondition]
  cases Condition.parse find (token.components.drop 1) <;> rfl

/-- A choice without `elif` whose bodies are read, if its condition compiles. -/
theorem run_readChoice_of_bodies (find : FilterFinder) (token : Token)
    {first : List Node} {otherwise : List (Branch Node)} {terminator closing : Token}
    {middle : List Token}
    (hFirst : bodies (Token.isNamed ["endif", "elif", "else"]) queue =
      .ok first (terminator :: middle))
    (hTerminator : terminator.isNamed ["elif"] = false)
    (hOtherwise : (readOtherwise (some terminator)).run bodies middle =
      .ok (otherwise, some closing) rest) (hClosing : closing.contents = "endif") :
    ∃ left, (readChoice find token).run bodies queue =
      match Condition.parse find (token.components.drop 1) with
      | .ok condition => .ok (.choice (⟨some condition, first⟩ :: otherwise)) rest
      | .error error => .error error left := by
  refine ⟨queue, ?_⟩
  cases hCondition : Condition.parse find (token.components.drop 1) with
  | ok condition =>
      have hNone : ∀ token, some terminator = some token →
          token.isNamed ["elif"] = false := by
        rintro _ ⟨⟩
        exact hTerminator
      exact run_readChoice_eq_ok_iff.mpr ⟨_, _, [], some terminator, middle,
        otherwise, closing, run_readBranch_eq_ok_iff.mpr ⟨condition, first, hCondition,
          hFirst, rfl⟩,
        (run_readAlternatives_of_not_elif hNone).mpr ⟨rfl, rfl, rfl⟩, hOtherwise,
          hClosing, rfl⟩
  | error error =>
      unfold readChoice readBranch readCondition
      rw [hCondition]
      rfl

/-! ## Regions -/

theorem run_readFiltered_eq_ok_iff :
    (readFiltered find token).run bodies queue = .ok node rest ↔
      ∃ tag filters body last chain, token.components = [tag, filters] ∧
        bodies (Token.isNamed ["endfilter"]) queue = .ok body (last :: rest) ∧
        FilterChain.compile find (regionName ++ "|" ++ filters) = .ok chain ∧
        node = .filtered chain body := by
  unfold readFiltered
  split
  · rename_i tag filters hComponents
    simp only [run_bind_eq_ok_iff, run_bodyUntil, run_close_eq_ok_iff,
      run_ofExcept_eq_ok_iff, run_pure_eq_ok_iff]
    constructor
    · rintro ⟨body, _, hBody, last, middle, rfl, chain, _, ⟨hChain, rfl⟩, rfl, rfl⟩
      exact ⟨tag, filters, body, last, chain, hComponents, hBody, hChain, rfl⟩
    · rintro ⟨_, _, body, last, chain, hSame, hBody, hChain, rfl⟩
      rw [hComponents] at hSame
      cases hSame
      exact ⟨body, _, hBody, last, rest, rfl, chain, rest, ⟨hChain, rfl⟩, rfl, rfl⟩
  · rename_i hOther
    constructor
    · exact fun h => absurd h run_fault_ne_ok
    · rintro ⟨tag, filters, _, _, _, hComponents, -⟩
      exact absurd hComponents (hOther tag filters)

/-- A filtered region whose body is read compiles its chain at last. -/
theorem run_readFiltered_of_body (find : FilterFinder) {token : Token}
    {tag filters : String} (hComponents : token.components = [tag, filters])
    {body : List Node} {closing : Token}
    (hBody : bodies (Token.isNamed ["endfilter"]) queue = .ok body (closing :: rest)) :
    (readFiltered find token).run bodies queue =
      match FilterChain.compile find (regionName ++ "|" ++ filters) with
      | .ok chain => .ok (.filtered chain body) rest
      | .error error => .error error rest := by
  have hRead : (bodyUntil ["endfilter"]).run bodies queue =
      .ok body (closing :: rest) :=
    (run_bodyUntil _).trans hBody
  have hClose : (close "endfilter").run bodies (closing :: rest) = .ok closing rest :=
    run_close_eq_ok_iff.mpr rfl
  rw [readFiltered]
  simp only [hComponents]
  rw [run_bind_of_ok hRead, run_bind_of_ok hClose]
  cases FilterChain.compile find (regionName ++ "|" ++ filters) <;> rfl

theorem run_readBlock_eq_ok_iff :
    (readBlock find token).run bodies queue = .ok node rest ↔
      ∃ tag name body last, token.components = [tag, name] ∧
        bodies (Token.isNamed ["endblock"]) queue = .ok body (last :: rest) ∧
        node = .block ⟨name, superAhead 0 queue, body⟩ := by
  unfold readBlock
  split
  · rename_i tag name hComponents
    simp only [run_bind_eq_ok_iff, run_rest_eq_ok_iff, run_bodyUntil,
      run_close_eq_ok_iff, run_pure_eq_ok_iff]
    constructor
    · rintro ⟨_, _, ⟨rfl, rfl⟩, body, _, hBody, last, middle, rfl, rfl, rfl⟩
      exact ⟨tag, name, body, last, hComponents, hBody, rfl⟩
    · rintro ⟨_, _, body, last, hSame, hBody, rfl⟩
      rw [hComponents] at hSame
      cases hSame
      exact ⟨queue, queue, ⟨rfl, rfl⟩, body, _, hBody, last, rest, rfl, rfl, rfl⟩
  · rename_i hOther
    constructor
    · exact fun h => absurd h run_fault_ne_ok
    · rintro ⟨tag, name, _, _, hComponents, -⟩
      exact absurd hComponents (hOther tag name)

theorem run_readInherit_eq_ok_iff :
    (readInherit find token).run bodies queue = .ok node rest ↔
      ∃ tag parent nodes, token.components = [tag, parent] ∧
        bodies (Token.isNamed []) queue = .ok nodes rest ∧ nodes.any isInherit = false ∧
        node = .inherit (Variable.ofString parent)
          (Entries.ofList (nodes.filterMap namedBlock?)) := by
  unfold readInherit
  split
  · rename_i tag parent hComponents
    simp only [run_bind_eq_ok_iff, run_bodyUntil]
    constructor
    · rintro ⟨nodes, middle, hNodes, hEnd⟩
      split at hEnd
      · exact absurd hEnd run_fault_ne_ok
      · rename_i hOnce
        obtain ⟨rfl, rfl⟩ := run_pure_eq_ok_iff.mp hEnd
        exact ⟨tag, parent, nodes, hComponents, hNodes, eq_false_of_ne_true hOnce, rfl⟩
    · rintro ⟨_, _, nodes, hSame, hNodes, hOnce, rfl⟩
      rw [hComponents] at hSame
      cases hSame
      refine ⟨nodes, rest, hNodes, ?_⟩
      rw [hOnce]
      exact run_pure_eq_ok_iff.mpr ⟨rfl, rfl⟩
  · rename_i hOther
    constructor
    · exact fun h => absurd h run_fault_ne_ok
    · rintro ⟨tag, parent, _, hComponents, -⟩
      exact absurd hComponents (hOther tag parent)

/-! ## Tags of a single token -/

theorem run_readEmbed_eq_ok_iff :
    (readEmbed find token).run bodies queue = .ok node rest ↔
      ∃ tag template, ∃ bindings : Option String,
        token.components = tag :: template :: bindings.toList ∧ queue = rest ∧
        node = .embed (Variable.ofString template)
          (bindings.map Variable.ofString) := by
  unfold readEmbed
  split
  · rename_i tag template hComponents
    rw [run_pure_eq_ok_iff]
    constructor
    · rintro ⟨rfl, rfl⟩
      exact ⟨tag, template, none, hComponents, rfl, rfl⟩
    · rintro ⟨_, _, bindings, hSame, rfl, rfl⟩
      rw [hComponents] at hSame
      cases bindings <;> cases hSame
      exact ⟨rfl, rfl⟩
  · rename_i tag template bindings hComponents
    rw [run_pure_eq_ok_iff]
    constructor
    · rintro ⟨rfl, rfl⟩
      exact ⟨tag, template, some bindings, hComponents, rfl, rfl⟩
    · rintro ⟨_, _, others, hSame, rfl, rfl⟩
      rw [hComponents] at hSame
      cases others <;> cases hSame
      exact ⟨rfl, rfl⟩
  · rename_i hOne hTwo
    constructor
    · exact fun h => absurd h run_fault_ne_ok
    · rintro ⟨tag, template, bindings, hComponents, -⟩
      cases bindings with
      | none => exact absurd hComponents (hOne tag template)
      | some bindings => exact absurd hComponents (hTwo tag template bindings)

theorem run_readNow_eq_ok_iff :
    (readNow find token).run bodies queue = .ok node rest ↔
      ∃ tag, ∃ format : Option String, token.components = tag :: format.toList ∧
        queue = rest ∧
        node = .now (format.map Variable.ofString) := by
  unfold readNow
  split
  · rename_i tag hComponents
    rw [run_pure_eq_ok_iff]
    constructor
    · rintro ⟨rfl, rfl⟩
      exact ⟨tag, none, hComponents, rfl, rfl⟩
    · rintro ⟨_, format, hSame, rfl, rfl⟩
      rw [hComponents] at hSame
      cases format <;> cases hSame
      exact ⟨rfl, rfl⟩
  · rename_i tag format hComponents
    rw [run_pure_eq_ok_iff]
    constructor
    · rintro ⟨rfl, rfl⟩
      exact ⟨tag, some format, hComponents, rfl, rfl⟩
    · rintro ⟨_, others, hSame, rfl, rfl⟩
      rw [hComponents] at hSame
      cases others <;> cases hSame
      exact ⟨rfl, rfl⟩
  · rename_i hNone hOne
    constructor
    · exact fun h => absurd h run_fault_ne_ok
    · rintro ⟨tag, format, hComponents, -⟩
      cases format with
      | none => exact absurd hComponents (hNone tag)
      | some format => exact absurd hComponents (hOne tag format)

end TextTemplate.Tag

/-! ## The standard tags -/

namespace TextTemplate.Registry

/-- A body ends at a block. -/
theorem eq_block_of_ends {stop : Token → Bool} {token : Token}
    (h : ends stop token = true) :
    token = .block token.contents := by
  cases token with
  | block contents => rfl
  | text contents => cases h
  | output contents => cases h
  | comment contents => cases h

/-- A body up to given names ends at the blocks that bear one of them. -/
theorem ends_isNamed_iff {names : List String} {token : Token} :
    ends (Token.isNamed names) token = true ↔
      ∃ word ∈ names, token.word? = some word := by
  cases token with
  | block contents =>
      show (Token.block contents).word?.any names.contains = true ↔ _
      cases (Token.block contents).word? <;> simp
  | text contents => simp [ends, Token.word?]
  | output contents => simp [ends, Token.word?]
  | comment contents => simp [ends, Token.word?]

/-- The tags of the standard extension with their names. -/
def standardTags : List (String × TagReader) :=
  [("for", Tag.readLoop), ("if", Tag.readChoice), ("ifnot", Tag.readNegatedChoice),
    ("now", Tag.readNow), ("include", Tag.readEmbed), ("extends", Tag.readInherit),
    ("block", Tag.readBlock),
    ("filter", Tag.readFiltered)]

/-- The registry finds the tags of the standard extension and no others. -/
def HasStandardTags (registry : Registry) : Prop :=
  ∀ name, registry.findTag name = Registry.findTag [Extension.standard] name

theorem findTag_standard_eq_ok_iff {name : String} {reader : TagReader} :
    Registry.findTag [Extension.standard] name = .ok reader ↔
      (name, reader) ∈ standardTags := by
  have hGet : Extension.standard.tags.get? name = some reader ↔
      (name, reader) ∈ standardTags :=
    Mapping.get?_ofList_eq_some_iff (by decide)
  rw [← hGet, findTag, List.findSome?_singleton]
  cases Extension.standard.tags.get? name <;> simp

variable {registry : Registry}

theorem HasStandardTags.findTag_eq (h : registry.HasStandardTags) {word : String}
    {reader : TagReader} (hMem : (word, reader) ∈ standardTags) :
    registry.findTag word = .ok reader :=
  (h word).trans (findTag_standard_eq_ok_iff.mpr hMem)

/-- A tag that is found is a standard one. -/
theorem HasStandardTags.mem_of_findTag (h : registry.HasStandardTags) {word : String}
    {reader : TagReader} (hFind : registry.findTag word = .ok reader) :
    (word, reader) ∈ standardTags :=
  findTag_standard_eq_ok_iff.mp ((h word).symm.trans hFind)

theorem HasStandardTags.findTag_extends (h : registry.HasStandardTags) :
    registry.findTag "extends" = .ok Tag.readInherit :=
  h.findTag_eq (by simp [standardTags])

/-- What a token that names a tag stands for is what the tag reads. -/
theorem readNode_of_findTag {token : Token} {word : String} {reader : TagReader}
    (hWord : token.word? = some word) (hFind : registry.findTag word = .ok reader)
    (bodies : BodyParser) (queue : List Token) :
    registry.readNode bodies token queue =
      ((reader registry.findFilter token).run bodies >>=
        fun node => return some node) queue := by
  obtain ⟨contents, rfl⟩ := Token.eq_block_of_word? hWord
  have hName : (Token.block contents).name? = some word := hWord
  show registry.readBlock bodies (.block contents) queue = _
  simp only [readBlock, hName, hFind]
  rfl

variable {token : Token} {bodies : BodyParser} {queue rest : List Token}
  {node : Option Node}

/-- A token that names a tag is read by this tag. -/
theorem readNode_eq_ok_iff {word : String} (hWord : token.word? = some word) :
    registry.readNode bodies token queue = .ok node rest ↔
      ∃ reader found, registry.findTag word = .ok reader ∧
        (reader registry.findFilter token).run bodies queue = .ok found rest ∧
          node = some found := by
  cases hFind : registry.findTag word with
  | ok reader =>
      rw [readNode_of_findTag hWord hFind, Parser.bind_eq_ok_iff]
      constructor
      · rintro ⟨found, middle, hRun, hEnd⟩
        cases hEnd
        exact ⟨reader, found, rfl, hRun, rfl⟩
      · rintro ⟨_, found, hSame, hRun, rfl⟩
        cases hSame
        exact ⟨found, rest, hRun, rfl⟩
  | error error =>
      obtain ⟨contents, rfl⟩ := Token.eq_block_of_word? hWord
      have hName : (Token.block contents).name? = some word := hWord
      have hFails : registry.readNode bodies (.block contents) queue =
          .error error queue := by
        show registry.readBlock bodies (.block contents) queue = _
        simp only [readBlock, hName, hFind]
        rfl
      simp [hFails]

/-- A token without a word takes no others. -/
theorem queue_of_readNode (hWord : token.word? = none)
    (h : registry.readNode bodies token queue = .ok node rest) : queue = rest := by
  cases token with
  | text contents => cases h; rfl
  | comment contents => cases h; rfl
  | output contents =>
      obtain ⟨chain, middle, hChain, hEnd⟩ := Parser.bind_eq_ok_iff.mp h
      obtain ⟨-, rfl⟩ := Parser.ofExcept_eq_ok_iff.mp hChain
      cases hEnd
      rfl
  | block contents =>
      have hName : (Token.block contents).name? = none := hWord
      have hRead : registry.readNode bodies (.block contents) queue =
          .ok none queue := by
        show registry.readBlock bodies (.block contents) queue = _
        simp only [readBlock, hName]
        rfl
      rw [hRead] at h
      cases h
      rfl

end TextTemplate.Registry
