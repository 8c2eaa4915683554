import Mathlib
import TextTemplate.Proofs.Parsing.Markup
import TextTemplate.Proofs.Parsing.Readers

/-!
# Trees are parsed back

Whatever tree is written, its tokens are parsed to the nodes that it stands for, to the
last token, and no tag takes or leaves a token of another. The statement that carries
the induction over trees is `Yields`: in front of any tokens, and in any body that does
not end at one of the trees, the tokens of trees are read as their nodes and reading
goes on behind them. A body ends where its tag says, so what stands behind a body is
read by the tag that it belongs to.

For each tag it is enough to know this of its bodies. The tags that share the names
of their terminators, the two choices, differ in what they do with them, and each
has its lemma.

## Main results

* `Markup.readNode_opening` — a tree is read as its node, and nothing behind it
  is taken.
* `Registry.parseAll_markups` — trees are parsed back.
-/

namespace TextTemplate

/-! ## Tokens that are read as nodes -/

namespace Registry

/-- The words of tokens that a tree may open with. -/
def openingWords : List (Option String) :=
  [none, some "for", some "if", some "ifnot", some "filter", some "block",
    some "include", some "now"]

/-- A body does not end at a token that a tree may open with. -/
def Passes (stop : Token → Bool) : Prop :=
  ∀ token : Token, token.word? ∈ openingWords → ends stop token = false

theorem passes_isNamed {names : List String}
    (h : ∀ name ∈ names, some name ∉ openingWords) :
    Passes (Token.isNamed names) := by
  intro token hToken
  cases hEnds : ends (Token.isNamed names) token with
  | false => rfl
  | true =>
      obtain ⟨name, hName, hWord⟩ := ends_isNamed_iff.mp hEnds
      exact absurd (hWord ▸ hToken) (h name hName)

theorem passes_all : Passes fun _ => false := by
  intro token _
  cases token <;> rfl

/-- In every body that does not end at the trees that the tokens write, the tokens are
read as the nodes, whatever comes behind them. -/
def Yields (registry : Registry) (tokens : List Token) (nodes : List Node) : Prop :=
  ∀ ⦃stop⦄, Passes stop → ∀ ⦃rest others left⦄, registry.parseUntil stop rest =
    .ok others left →
    registry.parseUntil stop (tokens ++ rest) = .ok (nodes ++ others) left

variable {registry : Registry}

namespace Yields

theorem nil : registry.Yields [] [] :=
  fun _ _ _ _ _ h => h

/-- A tree and the trees behind it. -/
theorem cons {token : Token} {inner tokens : List Token} {node : Option Node}
    {nodes : List Node} (hOpening : token.word? ∈ openingWords)
    (hNode : ∀ rest, registry.readNode registry.parseUntil token (inner ++ rest) =
      .ok node rest) (h : registry.Yields tokens nodes) :
    registry.Yields (token :: (inner ++ tokens)) (node.toList ++ nodes) := by
  intro stop hPasses rest others left hRest
  rw [List.cons_append, List.append_assoc,
    registry.parseUntil_cons (hPasses token hOpening)]
  refine Parser.bind_eq_ok_iff.mpr ⟨node, tokens ++ rest, hNode _, ?_⟩
  refine Parser.bind_eq_ok_iff.mpr ⟨nodes ++ others, left, h hPasses hRest, ?_⟩
  rw [List.append_assoc]
  rfl

/-- A body up to a token at which it ends. -/
theorem upTo {tokens : List Token} {nodes : List Node}
    (h : registry.Yields tokens nodes) {names : List String}
    (hNames : ∀ name ∈ names, some name ∉ openingWords) (token : Token) {word : String}
    (hWord : token.word? = some word) (hMem : word ∈ names) (rest : List Token) :
    registry.parseUntil (Token.isNamed names) (tokens ++ token :: rest) =
      .ok nodes (token :: rest) := by
  have hEnds :=
    registry.parseUntil_of_ends (ends_isNamed_iff.mpr ⟨word, hMem, hWord⟩) rest
  have hBody := h (passes_isNamed hNames) hEnds
  rwa [List.append_nil] at hBody

end Yields

end Registry

open Registry

variable {registry : Registry}

/-- A body with an optional one behind a divider, as the readers of loops and negated
choices find it. -/
theorem Markup.yields_divided (closer word : String) {tokens : List Token}
    {nodes : List Node} (hCloser : (Token.block closer).word? = some closer)
    (hWord : (Token.block word).word? = some word) (hDiffer : closer ≠ word)
    (hNames : ∀ name ∈ [closer, word], some name ∉ openingWords)
    (hFirst : registry.Yields tokens nodes)
    {behind : Option (List (Markup registry.findFilter))}
    (hBehind : ∀ body ∈ behind,
      registry.Yields (Markup.tokensOf body) (Markup.nodesOf body))
    (rest : List Token) :
    ∃ terminator middle,
      registry.parseUntil (Token.isNamed [closer, word])
        (tokens ++ (Markup.tokensBehind word behind ++ [.block closer]) ++ rest) =
          .ok nodes (terminator :: middle) ∧
      ((terminator.contents = word ∧ ∃ last,
          registry.parseUntil (Token.isNamed [closer]) middle =
            .ok (Markup.nodesBehind behind) (last :: rest)) ∨
        (terminator.contents ≠ word ∧ Markup.nodesBehind behind = [] ∧
          middle = rest)) := by
  cases behind with
  | none =>
      refine ⟨.block closer, rest, ?_, .inr ⟨hDiffer, rfl, rfl⟩⟩
      rw [List.append_assoc]
      exact hFirst.upTo hNames _ hCloser List.mem_cons_self rest
  | some body =>
      have hClosing := fun name (hMem : name ∈ [closer]) =>
        hNames name (List.mem_cons.mpr (.inl (List.mem_singleton.mp hMem)))
      refine ⟨.block word, Markup.tokensOf body ++ .block closer :: rest, ?_,
        .inl ⟨rfl, .block closer,
          (hBehind body rfl).upTo hClosing _ hCloser List.mem_cons_self rest⟩⟩
      have hMem : word ∈ [closer, word] := List.mem_cons_of_mem _ List.mem_cons_self
      have hBody := hFirst.upTo hNames _ hWord hMem
        (Markup.tokensOf body ++ .block closer :: rest)
      simpa [Markup.tokensBehind] using hBody

namespace Markup

theorem word?_opening_mem (markup : Markup find) :
    markup.opening.word? ∈ openingWords := by
  cases markup with
  | text contents => exact List.mem_cons_self
  | comment contents => exact List.mem_cons_self
  | output tag => exact List.mem_cons_self
  | loop tag _ _ => exact Token.word?_of_components tag.reads ▸ by decide
  | choice tag _ _ _ => exact Token.word?_of_components tag.reads ▸ by decide
  | negatedChoice tag _ _ => exact Token.word?_of_components tag.reads ▸ by decide
  | filtered tag _ => exact Token.word?_of_components tag.reads ▸ by decide
  | block tag _ => exact Token.word?_of_components tag.reads ▸ by decide
  | embed tag => exact Token.word?_of_components tag.reads ▸ by decide
  | now tag => exact Token.word?_of_components tag.reads ▸ by decide

theorem ofComponents?_tag (tag : LoopTag find) :
    Tag.LoopHeader.ofComponents? (Token.block tag.contents).components =
      some ⟨Tag.LoopHeader.splitNames tag.names, tag.source, tag.filter⟩ := by
  obtain ⟨contents, names, source, operand, filter, condition, hReads, -, hFilter⟩ :=
    tag
  rw [hReads]
  cases filter with
  | none => rfl
  | some components =>
      cases components with
      | nil => cases hFilter
      | cons first rest => rfl

/-- The condition of a tag is what its components behind the name write. -/
theorem parse_components {word : String} (tag : ConditionTag find word) :
    Condition.parse find ((Token.block tag.contents).components.drop 1) =
      .ok tag.condition := by
  rw [tag.reads]
  exact tag.compiles

/-- The names at which a branch of a choice ends. -/
def branchEnds : List String := ["endif", "elif", "else"]

/-- A condition and the body behind it. -/
theorem run_readBranch {word : String} (tag : ConditionTag registry.findFilter word)
    {body : List (Markup registry.findFilter)}
    (hBody : registry.Yields (tokensOf body) (nodesOf body)) {rest : List Token}
    (hRest : registry.parseUntil (Token.isNamed branchEnds) rest = .ok [] rest) :
    (Tag.readBranch registry.findFilter (Token.block tag.contents)).run
      registry.parseUntil
      (tokensOf body ++ rest) = .ok ⟨some tag.condition, nodesOf body⟩ rest := by
  have hBranch := hBody (passes_isNamed (by decide)) hRest
  rw [List.append_nil] at hBranch
  exact Tag.run_readBranch_eq_ok_iff.mpr ⟨_, _, parse_components tag, hBranch, rfl⟩

/-- Alternatives end a branch, and so does what stands behind them if it does. -/
theorem parseUntil_alternatives
    (alternatives : List (Alternative registry.findFilter (Markup registry.findFilter)))
    {rest : List Token}
    (hRest : registry.parseUntil (Token.isNamed branchEnds) rest = .ok [] rest) :
    registry.parseUntil (Token.isNamed branchEnds)
      (Alternative.tokensOf alternatives ++ rest) =
      .ok [] (Alternative.tokensOf alternatives ++ rest) := by
  cases alternatives with
  | nil => exact hRest
  | cons alternative others =>
      obtain ⟨tag, body⟩ := alternative
      exact registry.parseUntil_of_ends
        (ends_isNamed_iff.mpr ⟨"elif", by decide,
          Token.word?_of_components tag.reads⟩) _

theorem length_le_tokensOf (alternatives : List (Alternative find (Markup find))) :
    alternatives.length ≤ (Alternative.tokensOf alternatives).length := by
  induction alternatives with
  | nil => exact Nat.zero_le _
  | cons alternative rest ih =>
      simp only [Alternative.tokensOf, List.length_cons, List.length_append]
      omega

/-- Alternatives are read one by one, and the token behind them is taken as well. -/
theorem run_readAlternatives {terminator : Token} {rest : List Token}
    (hNot : terminator.isNamed ["elif"] = false)
    (hRest : registry.parseUntil (Token.isNamed branchEnds) (terminator :: rest) =
      .ok [] (terminator :: rest))
    (alternatives : List (Alternative registry.findFilter (Markup registry.findFilter)))
    (hYields : ∀ alternative ∈ alternatives,
      registry.Yields (tokensOf alternative.body) (nodesOf alternative.body))
    {rounds : List Token} (hRounds : alternatives.length ≤ rounds.length) :
    (Tag.readAlternatives registry.findFilter rounds
        (Alternative.tokensOf alternatives ++ terminator :: rest).head?).run
          registry.parseUntil
      (Alternative.tokensOf alternatives ++ terminator :: rest).tail =
      .ok (Alternative.branchesOf alternatives, some terminator) rest := by
  induction alternatives generalizing rounds with
  | nil =>
      refine (Tag.run_readAlternatives_of_not_elif fun token hToken => ?_).mpr
        ⟨rfl, rfl, rfl⟩
      cases hToken
      exact hNot
  | cons alternative others ih =>
      obtain ⟨tag, body⟩ := alternative
      cases rounds with
      | nil => exact absurd hRounds (Nat.not_succ_le_zero _)
      | cons round rounds =>
          have hBranch := run_readBranch tag (hYields _ List.mem_cons_self)
            (parseUntil_alternatives others hRest)
          have hMore :=
            ih (fun other hMem => hYields other (List.mem_cons_of_mem _ hMem))
            (Nat.le_of_succ_le_succ hRounds)
          have hNamed : (Token.block tag.contents).isNamed ["elif"] = true := by
            rw [Token.isNamed_of_word? (Token.word?_of_components tag.reads)]
            decide
          rw [Alternative.tokensOf, List.cons_append, List.append_assoc]
          exact (Tag.run_readAlternatives_of_elif hNamed).mpr ⟨_, _, _,
            hBranch, hMore, rfl⟩

/-! ## What the tags of trees read -/

variable (hStandard : registry.HasStandardTags)
include hStandard

/-- What a block stands for is what its tag reads. -/
theorem readNode_tag {contents word : String} {components : List String}
    (hReads : (Token.block contents).components = word :: components)
    {reader : TagReader} (hMem : (word, reader) ∈ standardTags)
    {queue rest : List Token} {node : Node}
    (hRun : (reader registry.findFilter (.block contents)).run
      registry.parseUntil queue =
      .ok node rest) :
    registry.readNode registry.parseUntil (.block contents) queue =
      .ok (some node) rest :=
  (readNode_eq_ok_iff (Token.word?_of_components hReads)).mpr
    ⟨reader, node, hStandard.findTag_eq hMem, hRun, rfl⟩

theorem readNode_loop (tag : LoopTag registry.findFilter)
    {body : List (Markup registry.findFilter)}
    {empty : Option (List (Markup registry.findFilter))}
    (hBody : registry.Yields (tokensOf body) (nodesOf body))
    (hEmpty : ∀ body ∈ empty, registry.Yields (tokensOf body) (nodesOf body))
    (rest : List Token) :
    registry.readNode registry.parseUntil (.block tag.contents)
      (tokensOf body ++ (tokensBehind "empty" empty ++ [.block "endfor"]) ++ rest) =
      .ok (node? (loop tag body empty)) rest := by
  obtain ⟨terminator, middle, hFirst, hSecond⟩ :=
    yields_divided "endfor" "empty" rfl rfl (by decide) (by decide) hBody hEmpty rest
  exact readNode_tag hStandard tag.reads (by simp [standardTags])
    (Tag.run_readLoop_eq_ok_iff.mpr ⟨_, _, terminator, middle, _, _, _,
      ofComponents?_tag tag, hFirst, Tag.run_readEmpty_eq_ok_iff.mpr hSecond,
        tag.compilesSource, tag.compilesFilter, rfl⟩)

theorem readNode_negatedChoice (tag : NegationTag registry.findFilter)
    {failing : List (Markup registry.findFilter)}
    {holding : Option (List (Markup registry.findFilter))}
    (hFailing : registry.Yields (tokensOf failing) (nodesOf failing))
    (hHolding : ∀ body ∈ holding, registry.Yields (tokensOf body) (nodesOf body))
    (rest : List Token) :
    registry.readNode registry.parseUntil (.block tag.contents)
      (tokensOf failing ++ (tokensBehind "else" holding ++ [.block "endif"]) ++ rest) =
      .ok (node? (negatedChoice tag failing holding)) rest := by
  obtain ⟨terminator, middle, hFirst, hSecond⟩ :=
    yields_divided "endif" "else" rfl rfl (by decide) (by decide) hFailing hHolding rest
  have hLength : (Token.block tag.contents).components.length = 2 := by
    rw [tag.reads, List.length_cons, tag.single]
  exact readNode_tag hStandard tag.reads (by simp [standardTags])
    (Tag.run_readNegatedChoice_eq_ok_iff.mpr ⟨_, terminator, middle, _, _,
      hLength, hFirst, Tag.run_readHolding_eq_ok_iff.mpr hSecond,
        parse_components tag.toConditionTag, rfl⟩)

theorem readNode_filtered (tag : FilterTag registry.findFilter)
    {body : List (Markup registry.findFilter)}
    (hBody : registry.Yields (tokensOf body) (nodesOf body)) (rest : List Token) :
    registry.readNode registry.parseUntil (.block tag.contents)
      (tokensOf body ++ [.block "endfilter"] ++ rest) =
        .ok (node? (filtered tag body)) rest := by
  have hClosed := hBody.upTo (by decide) (.block "endfilter") rfl
    (List.mem_singleton_self "endfilter") rest
  rw [List.append_assoc]
  exact readNode_tag hStandard tag.reads (by simp [standardTags])
    (Tag.run_readFiltered_eq_ok_iff.mpr ⟨_, _, _, _, _, tag.reads, hClosed,
      tag.compiles, rfl⟩)

theorem readNode_block (tag : BlockTag) {body : List (Markup registry.findFilter)}
    (hBody : registry.Yields (tokensOf body) (nodesOf body)) (rest : List Token) :
    registry.readNode registry.parseUntil (.block tag.contents)
      (tokensOf body ++ [.block "endblock"] ++ rest) =
        .ok (node? (block tag body)) rest := by
  have hClosed := hBody.upTo (by decide) (.block "endblock") rfl
    (List.mem_singleton_self "endblock") rest
  have hSuper : Tag.superAhead 0 (tokensOf body ++ .block "endblock" :: rest) =
      (tokensOf body).any Tag.mentionsSuper := by
    rw [(nested_tokensOf body).superAhead_append .inl]
    exact Bool.or_false _
  rw [List.append_assoc, node?, ← hSuper]
  exact readNode_tag hStandard tag.reads (by simp [standardTags])
    (Tag.run_readBlock_eq_ok_iff.mpr ⟨_, _, _, _, tag.reads, hClosed, rfl⟩)

theorem readNode_embed (tag : EmbedTag) (rest : List Token) :
    registry.readNode registry.parseUntil (.block tag.contents) rest =
      .ok (embed tag : Markup registry.findFilter).node? rest :=
  readNode_tag hStandard tag.reads (by simp [standardTags])
    (Tag.run_readEmbed_eq_ok_iff.mpr ⟨_, _, tag.bindings, tag.reads, rfl, rfl⟩)

theorem readNode_now (tag : NowTag) (rest : List Token) :
    registry.readNode registry.parseUntil (.block tag.contents) rest =
      .ok (now tag : Markup registry.findFilter).node? rest :=
  readNode_tag hStandard tag.reads (by simp [standardTags])
    (Tag.run_readNow_eq_ok_iff.mpr ⟨_, tag.format, tag.reads, rfl, rfl⟩)

theorem readNode_choice (tag : ConditionTag registry.findFilter "if")
    {body : List (Markup registry.findFilter)}
    {alternatives : List (Alternative registry.findFilter (Markup registry.findFilter))}
    {otherwise : Option (List (Markup registry.findFilter))}
    (hBody : registry.Yields (tokensOf body) (nodesOf body))
    (hAlternatives : ∀ alternative ∈ alternatives,
      registry.Yields (tokensOf alternative.body) (nodesOf alternative.body))
    (hOtherwise : ∀ body ∈ otherwise, registry.Yields (tokensOf body) (nodesOf body))
    (rest : List Token) :
    registry.readNode registry.parseUntil (.block tag.contents)
      (tokensOf body ++ (Alternative.tokensOf alternatives ++
        (tokensBehind "else" otherwise ++ [.block "endif"])) ++ rest) =
      .ok (node? (choice tag body alternatives otherwise)) rest := by
  -- What stands behind the alternatives is `endif`, or `else` and what leads to
  -- `endif`.
  obtain ⟨terminator, later, hTail, hNot, hEnds, hRead⟩ : ∃ terminator later,
      tokensBehind "else" otherwise ++ .block "endif" :: rest = terminator :: later ∧
      terminator.isNamed ["elif"] = false ∧
        ends (Token.isNamed branchEnds) terminator = true ∧
      (Tag.readOtherwise (some terminator)).run registry.parseUntil later =
        .ok (branchBehind otherwise, some (.block "endif")) rest := by
    cases otherwise with
    | none =>
        exact ⟨.block "endif", rest, rfl, by decide, by decide,
          Tag.run_readOtherwise_eq_ok_iff.mpr (.inr ⟨by decide, rfl, rfl, rfl⟩)⟩
    | some body =>
        have hElse := (hOtherwise body rfl).upTo (by decide) (.block "endif") rfl
          (List.mem_singleton_self "endif") rest
        exact ⟨.block "else", _, rfl, by decide, by decide,
          Tag.run_readOtherwise_eq_ok_iff.mpr
            (.inl ⟨by decide, _, _, hElse, rfl, rfl, rfl⟩)⟩
  have hStops := registry.parseUntil_of_ends hEnds later
  have hRounds : alternatives.length ≤
      (Token.block tag.contents ::
        (Alternative.tokensOf alternatives ++ terminator :: later).tail).length := by
    have hLength := length_le_tokensOf alternatives
    simp only [List.length_cons, List.length_tail, List.length_append]
    omega
  have hFirst := run_readBranch tag hBody (parseUntil_alternatives alternatives hStops)
  have hMore := run_readAlternatives hNot hStops alternatives hAlternatives hRounds
  have hTokens : tokensOf body ++ (Alternative.tokensOf alternatives ++
      (tokensBehind "else" otherwise ++ [.block "endif"])) ++ rest =
      tokensOf body ++ (Alternative.tokensOf alternatives ++ terminator :: later) := by
    rw [← hTail]
    simp
  rw [hTokens]
  exact readNode_tag hStandard tag.reads (by simp [standardTags])
    (Tag.run_readChoice_eq_ok_iff.mpr ⟨_, _, _, _, _, _, _, hFirst, hMore,
      hRead, rfl, rfl⟩)

end Markup

/-! ## Trees are parsed back -/

mutual

/-- A tree is read as the node that it stands for, and nothing behind it is taken. -/
theorem Markup.readNode_opening (hStandard : registry.HasStandardTags)
    (markup : Markup registry.findFilter) (rest : List Token) :
    registry.readNode registry.parseUntil markup.opening (markup.inner ++ rest) =
      .ok markup.node? rest := by
  cases markup with
  | text contents => rfl
  | comment contents => rfl
  | output tag =>
      show (Parser.ofExcept (FilterChain.compile registry.findFilter tag.contents) >>=
        _) _ = _
      exact Parser.bind_eq_ok_iff.mpr
        ⟨tag.chain, rest, Parser.ofExcept_eq_ok_iff.mpr ⟨tag.compiles, rfl⟩, rfl⟩
  | loop tag body empty =>
      exact Markup.readNode_loop hStandard tag (Markup.yields_tokensOf hStandard body)
        (Markup.yields_optional hStandard empty) rest
  | choice tag body alternatives otherwise =>
      exact Markup.readNode_choice hStandard tag (Markup.yields_tokensOf hStandard body)
        (Alternative.yields_bodies hStandard alternatives)
        (Markup.yields_optional hStandard otherwise) rest
  | negatedChoice tag failing holding =>
      exact Markup.readNode_negatedChoice hStandard tag
        (Markup.yields_tokensOf hStandard failing)
        (Markup.yields_optional hStandard holding) rest
  | filtered tag body =>
      exact Markup.readNode_filtered hStandard tag
        (Markup.yields_tokensOf hStandard body) rest
  | block tag body =>
      exact Markup.readNode_block hStandard tag
        (Markup.yields_tokensOf hStandard body) rest
  | embed tag => exact Markup.readNode_embed hStandard tag rest
  | now tag => exact Markup.readNode_now hStandard tag rest

theorem Markup.yields_tokensOf (hStandard : registry.HasStandardTags)
    (markups : List (Markup registry.findFilter)) :
    registry.Yields (Markup.tokensOf markups) (Markup.nodesOf markups) := by
  cases markups with
  | nil => exact .nil
  | cons markup rest =>
      exact .cons markup.word?_opening_mem (Markup.readNode_opening hStandard markup)
        (Markup.yields_tokensOf hStandard rest)

theorem Markup.yields_optional (hStandard : registry.HasStandardTags)
    (optional : Option (List (Markup registry.findFilter))) :
    ∀ body ∈ optional, registry.Yields (Markup.tokensOf body)
      (Markup.nodesOf body) := by
  cases optional with
  | none => exact fun body hBody => absurd hBody (Option.not_mem_none body)
  | some body =>
      intro other hOther
      cases hOther
      exact Markup.yields_tokensOf hStandard body

theorem Alternative.yields_bodies (hStandard : registry.HasStandardTags)
    (alternatives : List (Alternative registry.findFilter
      (Markup registry.findFilter))) :
    ∀ alternative ∈ alternatives,
      registry.Yields (Markup.tokensOf alternative.body)
        (Markup.nodesOf alternative.body) := by
  cases alternatives with
  | nil => exact fun alternative hMem => absurd hMem List.not_mem_nil
  | cons alternative rest =>
      obtain ⟨tag, body⟩ := alternative
      exact List.forall_mem_cons.mpr
        ⟨Markup.yields_tokensOf hStandard body,
          Alternative.yields_bodies hStandard rest⟩

end

end TextTemplate
