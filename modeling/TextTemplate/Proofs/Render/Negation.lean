import TextTemplate.Proofs.Condition.Terms
import TextTemplate.Proofs.Inheritance.FilledTree
import TextTemplate.Proofs.Parsing.Extending
import TextTemplate.Proofs.Parsing.Locality
import TextTemplate.Proofs.Render.Source
import TextTemplate.Proofs.Token.Components

/-!
# Negated choices

`ifnot` and `if not` are read by two readers, which build different lists of branches.
The one puts the body behind `else` first, an empty one if there is none, and the other
body behind it as a branch without a condition; it also compiles the condition after the
bodies and not before them. The other reader negates the condition, keeps the bodies in
their order, and adds a branch for `else` only where it finds one. This module follows
both from the tokens to the text.

They come to the same except for the empty body. Every branch that is taken is rendered
in a scope of its own, so a branch that renders nothing can still fail, where the limit
leaves no scope for it.

## Main results

* `Token.components_if_not` — what is one component behind `ifnot` is one behind
  `if not`.
* `Registry.BodiesParse.parse_negations` — the nodes of both tags.
* `Environment.render_negations` — where they render alike.
* `Environment.renderSource_negations` — templates that consist of one of the tags.
-/

namespace TextTemplate

variable {σ : Type}

/-! ## The two opening tags -/

namespace Token

/-- A word of its own in front of a text is the first component of a block exactly if it
keeps apart from what follows. -/
private theorem components_word_iff (word text : String) (hWord : word ≠ "")
    (hPlain : ∀ c ∈ word.toList, c ≠ ' ' ∧ isQuote c = false)
    (hMark : endsInMark word.toList = false) {others : List String} :
    (Token.block (word ++ " " ++ text)).components = word :: others ↔
      (Token.block text).components = others ∧
        (words ' ' text.toList).head?.any isMarkRun = false :=
  splitPhrases_cons_iff (by decide) hWord hPlain hMark

/-- What is one component behind `ifnot` is one behind `if not`. -/
theorem components_if_not {condition component : String}
    (h : (Token.block ("ifnot " ++ condition)).components = ["ifnot", component]) :
    (Token.block ("if not " ++ condition)).components = ["if", "not", component] := by
  obtain ⟨hCondition, hMarks⟩ :=
    (components_word_iff "ifnot" condition (by decide) (by simp [isQuote]) rfl).mp h
  have hNot :=
    (components_word_iff "not" condition (by decide) (by simp [isQuote]) rfl).mpr
      ⟨hCondition, hMarks⟩
  have hFirst : (words ' ' ("not" ++ " " ++ condition).toList).head?.any
      isMarkRun = false := by
    have hText : ("not" ++ " " ++ condition).toList = "not".toList ++ ' ' ::
        condition.toList := by simp
    rw [hText,
      words_inert_separator (by decide) (inert_plain (by simp [isQuote])) (by simp)]
    rfl
  have hIf := (components_word_iff "if" _ (by decide) (by simp [isQuote]) rfl).mpr
    ⟨hNot, hFirst⟩
  rwa [← String.append_assoc, ← String.append_assoc] at hIf

end Token

namespace Condition

variable {find : FilterFinder} {component : String}

/-- A single operand. -/
private theorem parse_operand (h : component ∉ operatorWords) :
    parse find [component] = (Operand.compile find component).map .holds := by
  rw [parse, List.mapM_cons, Term.ofComponent_of_notMem h]
  cases Operand.compile find component <;> rfl

/-- A single operand with `not` in front of it. -/
private theorem parse_not_operand (h : component ∉ operatorWords) :
    parse find ["not", component] = (Operand.compile find component).map
      fun operand => .not (.holds operand) := by
  have hNegation : Term.ofComponent find "not" = .ok .negation := rfl
  rw [parse, List.mapM_cons, hNegation, List.mapM_cons, Term.ofComponent_of_notMem h]
  cases Operand.compile find component <;> rfl

theorem evaluate_not (condition : Condition) (maxRange : Nat) (scopes : Scopes) :
    (Condition.not condition).evaluate maxRange scopes =
      (condition.evaluate maxRange scopes).map Bool.not := by
  rw [evaluate]
  cases condition.evaluate maxRange scopes <;> rfl

end Condition

/-! ## Parsing -/

namespace Registry

variable {registry : Registry}

private theorem ends_isNamed_mono {names others : List String} (h : names ⊆ others)
    {token : Token} (hEnds : ends (Token.isNamed names) token = true) :
    ends (Token.isNamed others) token = true := by
  obtain ⟨word, hMem, hWord⟩ := ends_isNamed_iff.mp hEnds
  exact ends_isNamed_iff.mpr ⟨word, h hMem, hWord⟩

/-- A body ends at the same token if it may end at fewer, as long as it may end at
this one. -/
private theorem parseUntil_of_fewer {stop other : Token → Bool}
    (hFewer : ∀ token, ends other token = true → ends stop token = true)
    {queue rest : List Token} {nodes : List Node} {last : Token}
    (h : registry.parseUntil stop queue = .ok nodes (last :: rest))
    (hLast : ends other last = true) :
    registry.parseUntil other queue = .ok nodes (last :: rest) := by
  induction hLength :
    queue.length using Nat.strong_induction_on generalizing queue nodes with
  | _ length ih =>
      subst hLength
      cases queue with
      | nil => cases h
      | cons token queue =>
          cases hEnds : ends stop token with
          | true =>
              rw [registry.parseUntil_of_ends hEnds] at h
              cases h
              exact registry.parseUntil_of_ends hLast rest
          | false =>
              have hOther : ends other token = false :=
                eq_false_of_ne_true fun hEnd => by
                rw [hFewer token hEnd] at hEnds
                cases hEnds
              rw [registry.parseUntil_cons hEnds] at h
              obtain ⟨node, middle, hNode, hMore⟩ := Parser.bind_eq_ok_iff.mp h
              obtain ⟨others, left, hOthers, hEnd⟩ := Parser.bind_eq_ok_iff.mp hMore
              cases hEnd
              have hTails :=
                registry.tails_readNode registry.tails_parseUntil token queue
              rw [Parser.left_of_ok hNode] at hTails
              rw [parseUntil_cons_of_readNode hOther hNode, Parser.map_apply,
                ih middle.length (Nat.lt_succ_of_le hTails.length_le) hOthers rfl]

/-! ## Bodies of a choice -/

/-- The tokens behind the first body of a choice without `elif`: the `endif`, or an
`else` and the other body in front of it. -/
def behindFirst (other : Option (List Token)) : List Token :=
  match other with
  | none => [.block "endif"]
  | some body => .block "else" :: (body ++ [.block "endif"])

/-- The body of a choice without `elif`, and the one behind `else` if there is one,
parse up to where they end. -/
structure BodiesParse (registry : Registry) (first : List Token)
    (other : Option (List Token)) : Prop where
  first_parses : ∃ nodes, registry.parseUntil (Token.isNamed ["endif", "elif", "else"])
    (first ++ behindFirst other) = .ok nodes (behindFirst other)
  other_parses : ∀ body ∈ other, ∃ nodes, registry.parseUntil (Token.isNamed ["endif"])
    (body ++ [.block "endif"]) = .ok nodes [.block "endif"]

/-- With the standard tags, templates that name no parent are such bodies. -/
theorem BodiesParse.of_parseAll (hStandard : registry.HasStandardTags)
    {first : List Token} {other : Option (List Token)}
    (h : ∀ body ∈ first :: other.toList, ∃ nodes left,
      registry.parseAll body = .ok nodes left ∧
      nodes.any Tag.isInherit = false) : registry.BodiesParse first other where
  first_parses := by
    obtain ⟨nodes, left, hParse, hPlain⟩ := h first List.mem_cons_self
    have hYields := yields_of_parseAll hStandard hParse hPlain
    refine ⟨nodes, ?_⟩
    cases other with
    | none =>
        exact hYields.upTo (by decide) (.block "endif") (by decide : _ = some "endif")
          (by decide) []
    | some body =>
        exact hYields.upTo (by decide) (.block "else") (by decide : _ = some "else")
          (by decide) _
  other_parses := by
    rintro body ⟨⟩
    obtain ⟨nodes, left, hParse, hPlain⟩ := h body (by simp)
    exact ⟨nodes, (yields_of_parseAll hStandard hParse hPlain).upTo (by decide)
      (.block "endif") (by decide : _ = some "endif") (by decide) []⟩

/-- What stands behind the first body, as the two tags read it: at the token that ends
this body the one reads the body for a condition that holds, and the other one a branch
without a condition, if there is an `else`. -/
theorem BodiesParse.read_other {first : List Token} {other : Option (List Token)}
    (h : registry.BodiesParse first other) :
    ∃ (terminator : Token) (middle : List Token) (holding : Option (List Node)),
      behindFirst other = terminator :: middle ∧
        (terminator = .block "endif" ∨ terminator = .block "else") ∧
      holding.isSome = other.isSome ∧
      (Tag.readHolding terminator).run registry.parseUntil middle =
        .ok (holding.getD []) [] ∧
      (Tag.readOtherwise (some terminator)).run registry.parseUntil middle =
        .ok ((holding.map fun nodes => ⟨none, nodes⟩).toList,
          some (.block "endif")) [] := by
  cases other with
  | none =>
      exact ⟨.block "endif", [], none, rfl, .inl rfl, rfl,
        Tag.run_readHolding_eq_ok_iff.mpr (.inr ⟨by decide, rfl, rfl⟩),
        Tag.run_readOtherwise_eq_ok_iff.mpr (.inr ⟨rfl, rfl, rfl, rfl⟩)⟩
  | some body =>
      obtain ⟨nodes, hNodes⟩ := h.other_parses body rfl
      exact ⟨.block "else", body ++ [.block "endif"], some nodes, rfl, .inr rfl, rfl,
        Tag.run_readHolding_eq_ok_iff.mpr (.inl ⟨rfl, _, hNodes⟩),
        Tag.run_readOtherwise_eq_ok_iff.mpr
          (.inl ⟨rfl, nodes, _, hNodes, rfl, rfl, rfl⟩)⟩

/-- The nodes of the two tags: a negated choice has two branches, a choice on a negation
as many as it has bodies. -/
theorem BodiesParse.parse_negations {first : List Token} {other : Option (List Token)}
    (hBodies : registry.BodiesParse first other)
    (hChoice : registry.findTag "if" = .ok Tag.readChoice)
    (hNegated : registry.findTag "ifnot" = .ok Tag.readNegatedChoice)
    {condition component : String}
    (hComponents : (Token.block ("ifnot " ++ condition)).components =
      ["ifnot", component]) (hOperand : component ∉ Condition.operatorWords) :
    ∃ (failing : List Node) (holding : Option (List Node)),
      holding.isSome = other.isSome ∧
      (∀ source, tokenize source = .block ("ifnot " ++ condition) ::
        (first ++ behindFirst other) →
        registry.parse source = (Operand.compile registry.findFilter component).map
          fun operand =>
            [.choice [⟨some (.holds operand), holding.getD []⟩, ⟨none, failing⟩]]) ∧
      (∀ source, tokenize source = .block ("if not " ++ condition) ::
        (first ++ behindFirst other) →
        registry.parse source = (Operand.compile registry.findFilter component).map
          fun operand =>
            [.choice (⟨some (.not (.holds operand)), failing⟩ ::
              (holding.map fun nodes => ⟨none, nodes⟩).toList)]) := by
  obtain ⟨failing, hFailing⟩ := hBodies.first_parses
  obtain ⟨terminator, middle, holding, hBehind, hTerminator, hSome, hHolding,
    hOtherwise⟩ := hBodies.read_other
  rw [hBehind] at hFailing ⊢
  have hPlain := Token.components_if_not hComponents
  refine ⟨failing, holding, hSome, fun source hSource => ?_, fun source hSource => ?_⟩
  · have hNames : ["endif", "else"] ⊆ ["endif", "elif", "else"] := by decide
    have hEnds : ends (Token.isNamed ["endif", "else"]) terminator = true := by
      rcases hTerminator with rfl | rfl <;> decide
    have hFewer := parseUntil_of_fewer (fun _ => ends_isNamed_mono hNames)
      hFailing hEnds
    have hTwo : (Token.block ("ifnot " ++ condition)).components.length = 2 := by
      rw [hComponents]
      rfl
    have hRun := Tag.run_readNegatedChoice_of_bodies registry.findFilter _ hTwo
      hFewer hHolding
    rw [hComponents, List.drop_one, List.tail_cons, Condition.parse_operand hOperand]
      at hRun
    rw [parse_of_tag ((Operand.compile registry.findFilter component).map fun operand =>
      .choice [⟨some (.holds operand), holding.getD []⟩, ⟨none, failing⟩]) [] hSource
        hComponents hNegated
      (hRun.trans (by cases Operand.compile registry.findFilter component <;> rfl))]
    cases Operand.compile registry.findFilter component <;> rfl
  · have hNamed : terminator.isNamed ["elif"] = false := by
      rcases hTerminator with rfl | rfl <;> decide
    obtain ⟨left, hRun⟩ := Tag.run_readChoice_of_bodies registry.findFilter
      (.block ("if not " ++ condition)) hFailing hNamed hOtherwise rfl
    rw [hPlain, List.drop_one, List.tail_cons, Condition.parse_not_operand hOperand]
      at hRun
    rw [parse_of_tag ((Operand.compile registry.findFilter component).map fun operand =>
      .choice (⟨some (.not (.holds operand)), failing⟩ ::
        (holding.map fun nodes => ⟨none, nodes⟩).toList))
      left hSource hPlain hChoice
        (hRun.trans (by cases Operand.compile registry.findFilter component <;> rfl))]
    cases Operand.compile registry.findFilter component <;> rfl

end Registry

/-! ## Rendering -/

namespace Environment

open Render

variable {env : Environment σ}

theorem renderBranches_cons (deeper : List Node → Render σ String)
    (condition : Option Condition) (body : List Node) (rest : List (Branch Node))
    (context : Context σ) :
    env.renderBranches deeper (⟨condition, body⟩ :: rest) context =
      match (env.test condition).result context with
      | .ok true => env.within Mapping.empty (env.renderNodes deeper body) context
      | .ok false => env.renderBranches deeper rest context
      | .error error => .error error context := by
  have hAfter := env.after_test condition context
  rw [renderBranches]
  show EStateM.bind (env.test condition) _ context = _
  unfold result
  unfold after at hAfter
  rw [EStateM.bind]
  cases hTest : env.test condition context with
  | error error left =>
      rw [hTest] at hAfter
      rw [show left = context from hAfter]
  | ok answer left =>
      rw [hTest] at hAfter
      rw [show left = context from hAfter]
      cases answer <;> rfl

/-- A choice of a single node. -/
theorem render_choice (branches : List (Branch Node)) :
    env.render [.choice branches] = env.renderBranches env.render branches := by
  rw [render_singleton, renderNode]

/-- A body without nodes still takes a scope. -/
private theorem within_renderNodes_nil (deeper : List Node → Render σ String)
    (context : Context σ) :
    env.within Mapping.empty (env.renderNodes deeper []) context =
      if env.maxDepth < context.scopes.length
        then .error (.tooDeep env.maxDepth) context else .ok "" context := by
  unfold within Render.within
  split
  · rfl
  · rw [renderNodes]
    rfl

/-- Without `else`, a choice on a negation of what holds is the empty text. -/
theorem render_negation_of_holds {condition : Condition} {context : Context σ}
    (hHolds : condition.evaluate env.maxRange context.scopes = .ok true)
    (failing : List Node) :
    env.render [.choice [⟨some (.not condition), failing⟩]] context =
      .ok "" context := by
  rw [render_choice, renderBranches_cons, result_test]
  simp only [Condition.evaluate_not, hHolds, Except.map, Bool.not_true, renderBranches]
  rfl

/-- Both tags on an operand. They differ where the operand holds and there is no body
for it: the negated choice renders an empty one, in a scope of its own. -/
theorem render_negations (operand : Operand) (failing : List Node)
    (holding : Option (List Node)) (context : Context σ) :
    env.render [.choice [⟨some (.holds operand), holding.getD []⟩,
      ⟨none, failing⟩]] context =
      if holding = none ∧ env.maxDepth < context.scopes.length ∧
          (Condition.holds operand).evaluate env.maxRange context.scopes = .ok true then
        .error (.tooDeep env.maxDepth) context
      else
        env.render [.choice (⟨some (.not (.holds operand)), failing⟩ ::
          (holding.map fun nodes => ⟨none, nodes⟩).toList)] context := by
  rw [render_choice, render_choice, renderBranches_cons, renderBranches_cons,
    renderBranches_cons]
  simp only [result_test, Condition.evaluate_not]
  cases hHolds : (Condition.holds operand).evaluate env.maxRange context.scopes with
  | error error => simp [Except.map]
  | ok answer =>
      cases answer with
      | false => simp [Except.map]
      | true =>
          cases holding with
          | none =>
              simp only [Option.getD_none, Except.map, Bool.not_true, Option.map_none,
                Option.toList_none, within_renderNodes_nil, true_and, and_true]
              rfl
          | some nodes => simp [Except.map, renderBranches_cons]

/-- `ifnot` in front of a condition of one component, which is no operator, is `if not`:
whatever the bodies are, the two templates give the same text or the same error and
leave the same context, at any depth. There is one exception, for templates without
`else`. Where the condition holds, nothing is rendered; but the negated choice takes a
scope for it, and fails where the limit leaves none, while a choice on a negation gives
the empty text. -/
theorem renderSource_negations (env : Environment σ)
    (hChoice : env.registry.findTag "if" = .ok Tag.readChoice)
    (hNegated : env.registry.findTag "ifnot" = .ok Tag.readNegatedChoice)
    {condition component : String}
    (hComponents : (Token.block ("ifnot " ++ condition)).components =
      ["ifnot", component]) (hOperand : component ∉ Condition.operatorWords)
    {first : List Token} {other : Option (List Token)}
    (hBodies : env.registry.BodiesParse first other) {negated plain : String}
    (hNegatedTokens : tokenize negated = .block ("ifnot " ++ condition) ::
      (first ++ Registry.behindFirst other))
    (hPlainTokens : tokenize plain = .block ("if not " ++ condition) ::
      (first ++ Registry.behindFirst other)) (context : Context σ) :
    let exhausted := other = none ∧ env.maxDepth < context.scopes.length ∧
      ∃ operand, Operand.compile env.registry.findFilter component = .ok operand ∧
        (Condition.holds operand).evaluate env.maxRange context.scopes = .ok true
    (¬ exhausted → env.renderSource negated context = env.renderSource plain context) ∧
      (exhausted → env.renderSource negated context =
        .error (.tooDeep env.maxDepth) context ∧
        env.renderSource plain context = .ok "" context) := by
  intro exhausted
  obtain ⟨failing, holding, hSome, hNegatedParse, hPlainParse⟩ :=
    hBodies.parse_negations hChoice hNegated hComponents hOperand
  have hNone : holding = none ↔ other = none := by
    rw [← Option.isNone_iff_eq_none, ← Option.isNone_iff_eq_none, ← Option.not_isSome,
      hSome, Option.not_isSome]
  have hNegatedNodes := hNegatedParse negated hNegatedTokens
  have hPlainNodes := hPlainParse plain hPlainTokens
  cases hCompile : Operand.compile env.registry.findFilter component with
  | error error =>
      rw [hCompile] at hNegatedNodes hPlainNodes
      have hCompiles : ¬ exhausted := by
        rintro ⟨-, -, operand, hOk, -⟩
        rw [hCompile] at hOk
        cases hOk
      refine ⟨fun _ => ?_, fun hExhausted => absurd hExhausted hCompiles⟩
      rw [renderSource_of_parse_error hNegatedNodes,
        renderSource_of_parse_error hPlainNodes]
  | ok operand =>
      rw [hCompile] at hNegatedNodes hPlainNodes
      have hExhausted : exhausted ↔
          holding = none ∧ env.maxDepth < context.scopes.length ∧
          (Condition.holds operand).evaluate env.maxRange context.scopes =
            .ok true := by
        simp only [exhausted, hNone, hCompile, Except.ok.injEq, exists_eq_left']
      rw [renderSource_of_parse hNegatedNodes, renderSource_of_parse hPlainNodes,
        render_negations, hExhausted]
      refine ⟨fun hNot => if_neg hNot, fun hReached => ⟨if_pos hReached, ?_⟩⟩
      obtain ⟨rfl, -, hHolds⟩ := hReached
      exact render_negation_of_holds hHolds failing

/-- With `else`, the scope that the body takes is one scope too many for both tags. -/
theorem renderSource_negations_of_else :
    let env : Environment Unit :=
  { clock := ⟨2024, 2, 29, 12, 0, 0, 0, 0⟩, maxDepth := 0 }
    let negated := "\x7b% ifnot x %\x7da\x7b% else %\x7db\x7b% endif %\x7d"
    let plain := "\x7b% if not x %\x7da\x7b% else %\x7db\x7b% endif %\x7d"
    let context : Context Unit :=
      ⟨[Mapping.singleton "x" (.bool true)], none, ⟨Mapping.empty, ()⟩⟩
    env.renderSource negated context = env.renderSource plain context := by
  intro env negated plain context
  have hNegatedTokens : tokenize negated =
      .block "ifnot x" :: ([.text "a"] ++ Registry.behindFirst (some [.text "b"])) := by
        cbv
  have hPlainTokens : tokenize plain =
      .block "if not x" :: ([.text "a"] ++
        Registry.behindFirst (some [.text "b"])) := by cbv
  have hStandard : env.registry.HasStandardTags := fun name => rfl
  have hBodies : env.registry.BodiesParse [.text "a"] (some [.text "b"]) := by
    refine .of_parseAll hStandard fun body hMem => ?_
    simp only [Option.toList_some, List.mem_cons, List.not_mem_nil, or_false] at hMem
    rcases hMem with rfl | rfl <;> exact ⟨_, [], rfl, rfl⟩
  have hComponents : (Token.block ("ifnot " ++ "x")).components =
      ["ifnot", "x"] := by decide
  exact (env.renderSource_negations
    (hStandard.findTag_eq (by simp [Registry.standardTags]))
    (hStandard.findTag_eq (by simp [Registry.standardTags])) hComponents
    (by decide) hBodies hNegatedTokens
    hPlainTokens context).1 (by simp)

/-- Without `else`, the scope of an empty body is one scope too many for the negated
choice alone. -/
theorem renderSource_negations_ne_of_limit :
    let env : Environment Unit :=
  { clock := ⟨2024, 2, 29, 12, 0, 0, 0, 0⟩, maxDepth := 0 }
    let context : Context Unit := ⟨[Mapping.empty], none, ⟨Mapping.empty, ()⟩⟩
    (Token.block "ifnot true").components = ["ifnot", "true"] ∧
      "true" ∉ Condition.operatorWords ∧ (env.parse "a").isOk = true ∧
      env.renderSource "\x7b% ifnot true %\x7da\x7b% endif %\x7d" context =
        .error (.tooDeep 0) context ∧
      env.renderSource "\x7b% if not true %\x7da\x7b% endif %\x7d" context =
        .ok "" context := by
  intro env context
  have hComponents : (Token.block ("ifnot " ++ "true")).components =
      ["ifnot", "true"] := by decide
  have hOperand : "true" ∉ Condition.operatorWords := by decide
  have hStandard : env.registry.HasStandardTags := fun name => rfl
  have hBodies : env.registry.BodiesParse [.text "a"] none := by
    refine .of_parseAll hStandard fun body hMem => ?_
    rw [List.mem_singleton.mp hMem]
    exact ⟨_, [], rfl, rfl⟩
  have hNegatedTokens : tokenize "\x7b% ifnot true %\x7da\x7b% endif %\x7d" =
      .block "ifnot true" :: ([.text "a"] ++ Registry.behindFirst none) := by cbv
  have hPlainTokens : tokenize "\x7b% if not true %\x7da\x7b% endif %\x7d" =
      .block "if not true" :: ([.text "a"] ++ Registry.behindFirst none) := by cbv
  have hDivided : Text.divideText "..." "true" = ["true"] := by cbv
  have hCompile : Operand.compile env.registry.findFilter "true" =
      .ok (.filtered ⟨"true", Variable.ofString "true", []⟩) := by
    unfold Operand.compile RangeExpression.compile?
    rw [hDivided]
    rfl
  obtain ⟨failing, holding, hNone, hNegated, hPlain⟩ :=
    hBodies.parse_negations (hStandard.findTag_eq (by simp [Registry.standardTags]))
      (hStandard.findTag_eq (by simp [Registry.standardTags])) hComponents hOperand
  have hNegatedNodes := hNegated _ hNegatedTokens
  have hPlainNodes := hPlain _ hPlainTokens
  rw [hCompile] at hNegatedNodes hPlainNodes
  cases holding with
  | some nodes => cases hNone
  | none =>
      refine ⟨hComponents, hOperand, ?_, ?_, ?_⟩
      · have hTokens : tokenize "a" = [.text "a"] := by cbv
        rw [Environment.parse, Registry.parse, hTokens]
        rfl
      · rw [renderSource_of_parse hNegatedNodes, render_negations]
        exact if_pos ⟨rfl, by decide, rfl⟩
      · rw [renderSource_of_parse hPlainNodes]
        exact render_negation_of_holds rfl failing

end Environment

end TextTemplate
