import Mathlib
import TextTemplate.Proofs.Inheritance.FilledTree
import TextTemplate.Proofs.Inheritance.Waiting
import TextTemplate.Proofs.Loading.Answers
import TextTemplate.Proofs.Loading.Fixed
import TextTemplate.Proofs.Parsing.Extending

/-!
# Down a chain of templates

A template that begins with `extends` names the template that it is derived from, which
may name another one, and so on down to a root. Rendering it goes down this chain: each
parent is loaded and rendered in an empty scope of its own, with the blocks of all
templates so far waiting. When the root is reached, `override?` says what waits for each
name, and what the root renders to is known from `agrees_of_root`: the root with the
blocks filled into its tree.

## Main results

* `Descends` — a served chain of templates from a root up.
* `exists_root_context` — a rendering of the chain is a rendering of the root while the
  blocks wait.
* `renderNamed_eq_fill` — it gives what the filled root gives.
-/

namespace TextTemplate

variable {σ : Type}

namespace Environment

open Render

/-- The template of a name is derived from a root over any number of templates, all of
them served and parsed: each begins with `extends` and the name of the next one as a
literal text. What its tokens behind `extends` are parsed to is listed for each of them,
the most derived template first. -/
inductive Descends (env : Environment σ) (loader : Loader σ) (root : List Node) :
    String → List Node → List (List Node) → Prop where
  | root {name source : String} (hServes : loader.Serves name source)
      (hParse : env.parse source = .ok root) : Descends env loader root name root []
  | derived {name parent source opening quoted : String} {tokens : List Token}
      {nodes parentNodes top : List Node} {derived : List (List Node)}
      (hServes : loader.Serves name source) (hParse : env.parse source = .ok nodes)
      (hTokens : tokenize source = .block opening :: tokens)
      (hComponents : (Token.block opening).components = ["extends", quoted])
      (hLiteral : Variable.literal? quoted = some (.string parent))
      (hTop : env.registry.parseAll tokens = .ok top [])
      (hParent : Descends env loader root parent parentNodes derived) :
      Descends env loader root name nodes (top :: derived)

variable {env : Environment σ} {loader : Loader σ} {root nodes : List Node}
  {name : String}
  {derived : List (List Node)}

/-- Every template of a chain is served and parses. -/
theorem Descends.exists_source (h : env.Descends loader root name nodes derived) :
    ∃ source, loader.Serves name source ∧ env.parse source = .ok nodes := by
  cases h with
  | root hServes hParse => exact ⟨_, hServes, hParse⟩
  | derived hServes hParse => exact ⟨_, hServes, hParse⟩

/-- A literal text is its own value. -/
private theorem resolve_of_literal {quoted text : String}
    (h : Variable.literal? quoted = some (.string text)) (scopes : Scopes) :
    (Variable.ofString quoted).resolve scopes = .string text := by
  rw [Variable.ofString, h]
  rfl

/-- A template whose name is a text is loaded by that name. -/
private theorem loadNamed_of_load {operand : Variable} {context : Context σ}
    {text : String} (hName : operand.resolve context.scopes = .string text)
    {template : Template} {after : Shelf σ}
    (hLoad : env.load text context.shelf = .ok template after) :
    env.loadNamed operand context = .ok template { context with shelf := after } := by
  simp only [loadNamed, bind, EStateM.bind, Render.scopes, hName, Render.ofSession,
    hLoad]

/-- A parent is rendered in an empty scope, with further blocks waiting. -/
private theorem result_renderParent {parent : Variable} {context after : Context σ}
    {template : Template} (hLoad : env.loadNamed parent context = .ok template after)
    (blocks : List (String × Block Node)) (deeper : List Node → Render σ String) :
    (env.renderParent parent blocks deeper).result context =
      (env.within Mapping.empty (deeper template.nodes)).result
        { after with overrides := some ((after.overrides.getD Mapping.empty).merge
          blocks) } := by
  have hResult : (env.loadNamed parent).result context = .ok template := by
    rw [result, hLoad]
  have hAfter : (env.loadNamed parent).after context = after := by
    rw [Render.after, hLoad]
  simp only [renderParent, result_bind, hResult, hAfter, result_overrides,
    after_overrides, result_setOverrides, after_setOverrides, result_outcome,
    after_outcome]
  cases after.overrides <;> simp

/-- A rendering of the chain is a rendering of its root in another context: more scopes
are open, though they show the same, and the blocks of the derived templates wait
besides those that waited before. -/
theorem exists_root_context (hLoader : env.loader = some loader)
    (hExtends : env.registry.findTag "extends" = .ok Tag.readInherit)
    (h : env.Descends loader root name nodes derived) (context : Context σ)
    (hFits : env.Fits loader context.shelf) :
    (env.render nodes).result context = .error (.tooDeep env.maxDepth) ∨
      ∃ rootContext : Context σ,
        (env.render nodes).result context = (env.render root).result rootContext ∧
        rootContext.scopes.Alike context.scopes ∧
        context.scopes.length ≤ rootContext.scopes.length ∧
        ∀ other, rootContext.waiting? other =
          (context.waiting? other).or (override? derived other) := by
  induction h generalizing context with
  | root hServes hParse =>
      refine .inr ⟨context, rfl, .refl _, Nat.le_refl _, fun other => ?_⟩
      exact Option.or_none.symm
  | @derived name parent source opening quoted tokens nodes parentNodes top derived
      hServes hParse hTokens hComponents hLiteral hTop hParent ih =>
      obtain ⟨rest, hRest, rfl⟩ := parse_of_extends hExtends hTokens hComponents hParse
      cases hTop.symm.trans hRest
      obtain ⟨parentSource, hParentServes, hParentParse⟩ := hParent.exists_source
      obtain ⟨template, after, hLoad, rfl, hAfter⟩ :=
        load_served hLoader hFits hParentServes hParentParse
      have hNamed :=
        loadNamed_of_load (resolve_of_literal hLiteral context.scopes) hLoad
      -- The context in which the parent is rendered.
      let waiting := (context.overrides.getD Mapping.empty).merge
        (Entries.ofList (top.filterMap Tag.namedBlock?))
      let inner : Context σ := ⟨Mapping.empty :: context.scopes, some waiting, after⟩
      have hWaiting : ∀ other,
          inner.waiting? other = (context.waiting? other).or
            (lastBlock? top other) := by
        intro other
        show waiting.get? other = _
        rw [Overrides.get?_merge, get?_blocks, Context.waiting?]
        cases context.overrides <;> rfl
      rw [render_singleton, renderNode, result_renderParent hNamed]
      unfold Environment.within
      rw [result_within]
      split
      · exact .inl rfl
      · rcases ih inner hAfter with hDeep | ⟨rootContext, hResult, hAlike,
          hDepth, hRoot⟩
        · exact .inl hDeep
        · refine .inr ⟨rootContext, hResult, hAlike.trans (.push_empty _), ?_,
            fun other => ?_⟩
          · exact Nat.le_trans (Nat.le_succ _) hDepth
          · rw [hRoot, hWaiting, Option.or_assoc, override?_cons]

/-- A template that is derived from a root renders to what the root renders to when the
body of each of its blocks is replaced by the body of the block of the same name in the
most derived template that has one, as long as the limit on the depth of scopes is not
hit. Where that body mentions `block.super`, the text of the body that it replaces is
rendered first and bound to that name. The root leads to no other template, has no block
in the body of a loop and no two blocks of one name, and the blocks that replace its own
are plain. Nothing is asked of what else the derived templates contain. -/
theorem renderNamed_eq_fill {shelf : Shelf σ} (hLoader : env.loader = some loader)
    (hExtends : env.registry.findTag "extends" = .ok Tag.readInherit)
    (hFits : env.Fits loader shelf)
    (hDescends : env.Descends loader root name nodes derived)
    (hRoot : Root (Node.partsOf root))
    (hPlain : ∀ top ∈ derived, ∀ block, .block block ∈ top →
      Plain (Node.partsOf block.body)) (data : Mapping Value)
    (hDepth : (env.renderNamed name data).result shelf ≠
      .error (.tooDeep env.maxDepth)) :
    (env.renderNamed name data).result shelf =
      (env.renderTemplate ⟨none,
        Node.fillAll (override? derived) root⟩ data).result shelf := by
  obtain ⟨source, hServes, hParse⟩ := hDescends.exists_source
  obtain ⟨template, after, hLoad, rfl, hAfter⟩ :=
    load_served hLoader hFits hServes hParse
  have hTemplate : ∀ (other : Template) (start : Shelf σ),
      (env.renderTemplate other data).result start =
        (env.render other.nodes).result ⟨[data], none, start⟩ := by
    intro other start
    unfold Session.result renderTemplate result
    cases env.render other.nodes ⟨[data], none, start⟩ <;> rfl
  have hNamed : (env.renderNamed name data).result shelf =
      (env.render template.nodes).result ⟨[data], none, after⟩ := by
    rw [← hTemplate]
    simp only [renderNamed, Session.result, bind, EStateM.bind, hLoad]
  rw [hNamed] at hDepth ⊢
  rw [hTemplate]
  rcases exists_root_context hLoader hExtends hDescends ⟨[data], none,
    after⟩ hAfter with
    hDeep | ⟨rootContext, hResult, hAlike, hLength, hWaiting⟩
  · exact absurd hDeep hDepth
  · have hFind : ∀ other replacement, override? derived other = some replacement →
        replacement.name = other ∧ Plain (Node.partsOf replacement.body) := by
      intro other replacement hFound
      obtain ⟨hName, top, hTop, hBlock⟩ := eq_name_of_override? hFound
      exact ⟨hName, hPlain top hTop replacement hBlock⟩
    have hFollows : Context.Follows (override? derived)
        (blockNames (Node.partsOf root)) rootContext
        ⟨[data], none, shelf⟩ := ⟨hAlike, hLength, rfl, fun other _ => hWaiting other⟩
    rw [hResult] at hDepth ⊢
    rcases env.agrees_of_root hRoot hFind rootContext _ hFollows with hDeep |
      ⟨hAgrees, _⟩
    · exact absurd hDeep hDepth
    · exact hAgrees

/-- A template with one parent, whose only block mentions the text that it replaces.
Both templates have been loaded before. -/
theorem renderNamed_eq_fill_of_super :
    let rootSource := "\x7b% block a %\x7dx\x7b% endblock %\x7d"
    let source := "\x7b% extends 'base' %\x7d\x7b% block a %\x7dy" ++
      "\x7b\x7b block.super \x7d\x7d\x7b% endblock %\x7dz"
    let loader : Loader Unit :=
      ⟨fun name => pure (if name = "base" then rootSource else source),
        fun names => throw (.notFound names none)⟩
    let env : Environment Unit :=
      { loader := some loader, maxDepth := 4, clock := ⟨2024, 2, 29, 12, 0, 0, 0, 0⟩ }
    let root : List Node := [.block ⟨"a", false, [.text "x"]⟩]
    let mention : Operand :=
      .filtered ⟨"block.super", Variable.ofString "block.super", []⟩
    let block : Block Node := ⟨"a", true, [.text "y", .output mention]⟩
    let shelf : Shelf Unit :=
      ⟨(Mapping.empty.insert "base" ⟨some "base", root⟩).insert "child"
        ⟨some "child", [.inherit (Variable.ofString "'base'") [("a", block)]]⟩, ()⟩
    (env.renderNamed "child" Mapping.empty).result shelf = .ok "yx" ∧
    (env.renderNamed "child" Mapping.empty).result shelf =
      (env.renderTemplate ⟨none,
        Node.fillAll (override? [[.block block, .text "z"]]) root⟩
        Mapping.empty).result shelf := by
  intro rootSource source loader env root mention block shelf
  have hRootTokens : tokenize rootSource =
      [.block "block a", .text "x", .block "endblock"] := by cbv
  have hTokens : tokenize source =
      [.block "extends 'base'", .block "block a", .text "y", .output "block.super",
        .block "endblock", .text "z"] := by cbv
  have hRootParse : env.parse rootSource = .ok root := by
    rw [Environment.parse, Registry.parse, hRootTokens]
    rfl
  have hParse : env.parse source =
      .ok [.inherit (Variable.ofString "'base'") [("a", block)]] := by
    rw [Environment.parse, Registry.parse, hTokens]
    rfl
  have hRootServes : loader.Serves "base" rootSource := fun state => ⟨state, rfl⟩
  have hServes : loader.Serves "child" source := fun state => ⟨state, rfl⟩
  have hFits : env.Fits loader shelf :=
    ((fits_empty ()).insert hRootServes hRootParse ()).insert hServes hParse ()
  have hDescends : env.Descends loader root "child"
      [.inherit (Variable.ofString "'base'") [("a", block)]]
        [[.block block, .text "z"]] :=
    .derived hServes hParse hTokens rfl rfl rfl (.root hRootServes hRootParse)
  have hRoot : Root (Node.partsOf root) :=
    ⟨by decide, by decide, by decide⟩
  have hPlain : ∀ top ∈ [[Node.block block, .text "z"]], ∀ other, .block other ∈ top →
      Plain (Node.partsOf other.body) := by
    intro top hTop other hOther
    rw [List.mem_singleton.mp hTop] at hOther
    have hBlock : other = block := by simpa using hOther
    rw [hBlock]
    exact ⟨by decide, by decide⟩
  have hLiteral : Variable.literal? "block.super" = none := rfl
  have hSegments : Variable.segments "block.super" = ["block", "super"] := by cbv
  have hMention : Variable.ofString "block.super" =
      ⟨"block.super", .path ["block", "super"]⟩ := by
    rw [Variable.ofString, hLiteral, hSegments]
  have hText : (env.renderNamed "child" Mapping.empty).result shelf = .ok "yx" := by
    simp only [shelf, block, mention, hMention]
    rfl
  refine ⟨hText, renderNamed_eq_fill rfl rfl hFits hDescends hRoot hPlain
    Mapping.empty ?_⟩
  rw [hText]
  exact fun hDeep => by cases hDeep

end Environment

end TextTemplate
