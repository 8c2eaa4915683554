import TextTemplate.Proofs.Coupling.Steady
import TextTemplate.Proofs.Inheritance.FilledTree
import TextTemplate.Proofs.Loading.Fixed
import TextTemplate.Proofs.Parsing.Locality
import TextTemplate.Proofs.Parsing.Naming
import TextTemplate.Proofs.Render.Halting

/-!
# Inclusion is inlining

An inclusion loads a template and renders it in a scope of its own, and so does a choice
whose condition holds with its body. With a fixed loader the two are the same: an
inclusion gives the text or the error of the tag that is read from the tokens of the
included template between an `if true` and its `endif`, and whatever is rendered behind
it cannot tell them apart.

On one side the template is parsed for itself and on the other side as the body of a
tag, which comes to the same nodes because parsing is local. The one difference that
rendering leaves is that the included template stands on the shelf, where with a fixed
loader nothing can see it.

## Main results

* `Registry.parseAll_enclosed` — what parses by itself parses between `if true`
  and `endif`.
* `Environment.render_include` — an inclusion renders as the included tokens do.
-/

namespace TextTemplate

variable {σ : Type}

/-- The source of a template that consists of the inclusion of another one. -/
def inclusion (name : String) : String :=
  "\x7b% include " ++ inQuotes name ++ " %\x7d"

/-! ## The two tags -/

namespace Condition

/-- The operand that is written `true`. -/
def plainTruth : Operand :=
  .filtered ⟨"true", Variable.ofString "true", []⟩

private theorem parse_true (find : FilterFinder) :
    parse find ((Token.block "if true").components.drop 1) =
      .ok (.holds plainTruth) := by
  have hComponents : (Token.block "if true").components.drop 1 = ["true"] := rfl
  have hDivided : Text.divideText "..." "true" = ["true"] := by cbv
  have hOperand : Operand.compile find "true" = .ok plainTruth := by
    unfold Operand.compile RangeExpression.compile?
    rw [hDivided]
    rfl
  have hTerm : Term.ofComponent find "true" = .ok (.atom plainTruth) := by
    have hInfix : InfixOperator.ofComponent? "true" = none := rfl
    rw [Term.ofComponent, if_neg (by decide), hInfix, hOperand]
    rfl
  rw [hComponents, parse, List.mapM_cons, hTerm]
  rfl

theorem evaluate_plainTruth (maxRange : Nat) (scopes : Scopes) :
    evaluate maxRange scopes (.holds plainTruth) = .ok true := rfl

end Condition

namespace Registry

variable {registry : Registry}

/-- The tokens of a source that parses. -/
private theorem parseAll_of_parse {source : String} {nodes : List Node}
    (h : registry.parse source = .ok nodes) :
    ∃ left, registry.parseAll (tokenize source) = .ok nodes left := by
  unfold parse at h
  split at h
  · rename_i left hAll
    cases h
    exact ⟨left, hAll⟩
  · cases h

/-- A template that parses by itself and names no parent parses to the same nodes as the
body of a choice. -/
theorem parseAll_enclosed (hStandard : registry.HasStandardTags)
    {tokens left : List Token} {nodes : List Node}
    (h : registry.parseAll tokens = .ok nodes left)
    (hPlain : nodes.any Tag.isInherit = false) :
    registry.parseAll (.block "if true" :: (tokens ++ [.block "endif"])) =
      .ok [.choice [⟨some (.holds Condition.plainTruth), nodes⟩]] [] := by
  have hBody := (yields_of_parseAll hStandard h hPlain).upTo
    (by decide : ∀ name ∈ Markup.branchEnds, some name ∉ openingWords) (.block "endif")
    (by decide : _ = some "endif") (by decide) []
  have hBranch := Tag.run_readBranch_eq_ok_iff.mpr
    ⟨_, _, Condition.parse_true registry.findFilter, hBody, rfl⟩
  have hNone : ∀ token, some (Token.block "endif") = some token →
      token.isNamed ["elif"] = false := by
    intro token hToken
    cases hToken
    decide
  have hChoice : (Tag.readChoice registry.findFilter (.block "if true")).run
      registry.parseUntil
      (tokens ++ [.block "endif"]) =
        .ok (.choice [⟨some (.holds Condition.plainTruth), nodes⟩]) [] :=
    Tag.run_readChoice_eq_ok_iff.mpr ⟨_, _, [], some (.block "endif"), [], [],
      .block "endif", hBranch,
        (Tag.run_readAlternatives_of_not_elif hNone).mpr ⟨rfl, rfl, rfl⟩,
      Tag.run_readOtherwise_eq_ok_iff.mpr (.inr ⟨rfl, rfl, rfl, rfl⟩), rfl, rfl⟩
  have hReads : (Token.block "if true").components = ["if", "true"] := by decide
  have hNode := Markup.readNode_tag hStandard hReads (by simp [standardTags]) hChoice
  show registry.parseUntil (fun _ => false) _ = _
  rw [parseUntil_cons_of_readNode rfl hNode]
  rfl

/-- An inclusion of a name in quotes is a single tag. -/
private theorem parseAll_include (hStandard : registry.HasStandardTags) {name : String}
    (hQuote : '\'' ∉ name.toList) :
    registry.parseAll [.block ("include" ++ " " ++ inQuotes name)] =
      .ok [.embed (Variable.ofString (inQuotes name)) none] [] := by
  have hReads : (Token.block ("include" ++ " " ++ inQuotes name)).components =
      ["include", inQuotes name] :=
    components_named (by decide) (by simp [isQuote]) (by decide) hQuote
  have hRun : (Tag.readEmbed registry.findFilter
      (.block ("include" ++ " " ++ inQuotes name))).run
      registry.parseUntil [] =
        .ok (.embed (Variable.ofString (inQuotes name)) none) [] :=
    Tag.run_readEmbed_eq_ok_iff.mpr ⟨_, _, none, hReads, rfl, rfl⟩
  have hNode := Markup.readNode_tag hStandard hReads (by simp [standardTags]) hRun
  show registry.parseUntil (fun _ => false) _ = _
  rw [parseUntil_cons_of_readNode rfl hNode]
  rfl

end Registry

/-! ## Rendering -/

namespace Environment

open Render

variable {env : Environment σ}

/-- A choice whose condition is `true` renders its body in a scope of its own. -/
private theorem render_enclosed (nodes : List Node) (context : Context σ) :
    (env.render [.choice [⟨some (.holds Condition.plainTruth), nodes⟩]]).result
      context =
        (env.within Mapping.empty (env.render nodes)).result context ∧
      (env.render [.choice [⟨some (.holds Condition.plainTruth), nodes⟩]]).after
        context =
        (env.within Mapping.empty (env.render nodes)).after context := by
  rw [render_singleton, renderNode, renderBranches, ← render_eq_renderNodes nodes]
  simp only [result_bind, after_bind, result_test, after_test,
    Condition.evaluate_plainTruth, if_true, and_self]

/-- The inclusion of a template that loads renders its nodes in a scope of its own. -/
private theorem render_inclusion {name : String} {template : Template}
    {context : Context σ} (h : (env.load name).result context.shelf = .ok template) :
    let loaded : Context σ :=
  { context with shelf := (env.load name).after context.shelf }
    (env.render [.embed (Variable.ofString (inQuotes name)) none]).result context =
        (env.within Mapping.empty (env.render template.nodes)).result loaded ∧
      (env.render [.embed (Variable.ofString (inQuotes name)) none]).after context =
        (env.within Mapping.empty (env.render template.nodes)).after loaded := by
  intro loaded
  have hName := Variable.resolve_inQuotes name context.scopes
  have hResult : (env.loadNamed (Variable.ofString (inQuotes name))).result context =
      .ok template := by
    rw [result_loadNamed, hName]
    exact h
  rw [render_singleton, renderNode, renderEmbedded]
  simp only [result_bind, after_bind, hResult, env.after_loadNamed hName, scopeOf,
    result_pure, after_pure, and_self, loaded]

/-- An inclusion is inlining: with the standard tags and a fixed loader, the tag that
includes a template gives the text or the error, and leaves the scopes, the blocks that
wait and what loads, as the tag that is parsed from `if true`, the tokens of the
template and `endif`. The template parses and names no parent. Its name may have
anything in it but the quote around it, and a source can name it in this way if the name
does not close the tag. -/
theorem render_include (hFixed : env.Unchanging)
    (hStandard : env.registry.HasStandardTags) {loader : Loader σ}
    (hLoader : env.loader = some loader) {name source : String}
    (hServes : loader.Serves name source) {nodes : List Node}
    (hParse : env.parse source = .ok nodes) (hPlain : nodes.any Tag.isInherit = false)
    (hQuote : '\'' ∉ name.toList) :
    ∃ included inlined : Node,
      env.registry.parseAll [.block ("include" ++ " " ++ inQuotes name)] =
        .ok [included] [] ∧
      (¬ Delimiter.block.closing <:+: name.toList →
        env.parse (inclusion name) = .ok [included]) ∧
      env.registry.parseAll (.block "if true" ::
        (tokenize source ++ [.block "endif"])) =
        .ok [inlined] [] ∧
      ∀ context : Context σ, env.Fits loader context.shelf →
        (env.render [included]).result context = (env.render [inlined]).result context ∧
        env.SameFor ((env.render [included]).after context)
          ((env.render [inlined]).after context) := by
  have hInclude := Registry.parseAll_include hStandard hQuote
  obtain ⟨left, hAll⟩ := Registry.parseAll_of_parse hParse
  refine ⟨_, _, hInclude, fun hClosing => ?_,
    Registry.parseAll_enclosed hStandard hAll hPlain, fun context hFits => ?_⟩
  · have hTokens := tokenize_naming (by decide : "include" ≠ "")
      (by simp [Text.isBlank]) hClosing
    have hSource : inclusion name = "\x7b% " ++ "include" ++ " " ++ inQuotes name ++
        " %\x7d" := by
      simp [inclusion]
    rw [Environment.parse, Registry.parse, hSource, hTokens, hInclude]
  · obtain ⟨template, shelf, hLoad, rfl, -⟩ := load_served hLoader hFits hServes hParse
    have hResult : (env.load name).result context.shelf = .ok template := by
      rw [Session.result, hLoad]
    obtain ⟨hIncluded, hIncludedAfter⟩ := env.render_inclusion hResult
    obtain ⟨hInlined, hInlinedAfter⟩ := env.render_enclosed template.nodes context
    rw [hIncluded, hIncludedAfter, hInlined, hInlinedAfter]
    exact (SameFor.of_load hFixed context name).within hFixed Mapping.empty
      _ template.nodes

/-- A template that reads a name is included where nothing has been loaded yet. -/
theorem render_include_of_greeting :
    let source := "Hi \x7b\x7b name \x7d\x7d"
    let loader : Loader Unit := Loader.memory (Mapping.singleton "card" source)
    let env : Environment Unit :=
      { loader := some loader, clock := ⟨2024, 2, 29, 12, 0, 0, 0, 0⟩ }
    let context : Context Unit :=
      ⟨[Mapping.singleton "name" (.string "Ann")], none, ⟨Mapping.empty, ()⟩⟩
    ∃ included inlined : Node, env.parse (inclusion "card") = .ok [included] ∧
      env.registry.parseAll (.block "if true" ::
        (tokenize source ++ [.block "endif"])) = .ok [inlined] [] ∧
      (env.render [included]).result context = (env.render [inlined]).result context ∧
      env.SameFor ((env.render [included]).after context)
        ((env.render [inlined]).after context) := by
  intro source loader env context
  have hFixed : env.Unchanging := by
    rintro _ ⟨⟩
    exact (Loader.coherent_memory _).fixed
  have hTokens : tokenize source = [.text "Hi ", .output "name"] := by cbv
  have hParse : env.parse source =
      .ok [.text "Hi ", .output
        (.filtered ⟨"name", Variable.ofString "name", []⟩)] := by
    rw [Environment.parse, Registry.parse, hTokens]
    rfl
  have hServes : loader.Serves "card" source := fun state => ⟨state, rfl⟩
  have hClosing : ¬ Delimiter.block.closing <:+: "card".toList := by decide
  obtain ⟨included, inlined, -, hIncluded, hInlined, hRender⟩ :=
    render_include hFixed (fun name => rfl) rfl hServes hParse rfl (by decide)
  exact ⟨included, inlined, hIncluded hClosing, hInlined,
    hRender context (fits_empty ())⟩

end Environment

end TextTemplate
