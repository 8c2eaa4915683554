import TextTemplate.Proofs.Inheritance.Replaced
import TextTemplate.Proofs.Parsing.Locality
import TextTemplate.Proofs.Parsing.Naming

/-!
# Exchanging a base

A derived template may replace a block of its base without mentioning what it replaces.
Then nothing of the body that the base has there comes to light: whichever of two bases
is named that differ in that body alone, the derived template renders to the same text
or fails with the same error.

Whether a block mentions what it replaces is decided by the text of its tags and
outputs, and a block is replaced once. So the two bases can be told apart by a block
that has the words in a literal, and by one whose place in the base comes up a
second time.

## Main definitions

* `Registry.Overriding` — the tokens of a derived template with a block that
  mentions nothing.

## Main results

* `Environment.renderText_eq_of_differ` — a derived template does not tell bases apart
  that differ in a body that it replaces.
* `Environment.renderText_ne_of_differ` — where it does.
-/

namespace TextTemplate

variable {σ : Type}

/-! ## A block that mentions nothing -/

namespace Registry

/-- The tokens of a derived template behind the name of its parent, with the last block
of a name among them. Nothing in this block mentions what it replaces. -/
structure Overriding (registry : Registry) (name : String) where
  before : List Token
  opening : String
  inside : List Token
  closing : Token
  behind : List Token
  /-- What stands in front of the block. -/
  front : List Node
  body : List Node
  /-- What stands behind the block. -/
  rest : List Node
  parsesBefore : registry.parseAll before = .ok front []
  parsesInside : registry.parseAll inside = .ok body []
  parsesBehind : registry.parseAll behind = .ok rest []
  plainFront : front.any Tag.isInherit = false
  plainBody : body.any Tag.isInherit = false
  plainRest : rest.any Tag.isInherit = false
  opens : (Token.block opening).components = ["block", name]
  closes : closing.word? = some "endblock"
  silent : ∀ token ∈ inside, Tag.mentionsSuper token = false
  last : lastBlock? rest name = none

namespace Overriding

variable {registry : Registry} {name : String}

/-- The tokens of the template behind the name of its parent. -/
def tokens (child : registry.Overriding name) : List Token :=
  child.before ++ .block child.opening ::
    (child.inside ++ child.closing :: child.behind)

/-- The block. -/
def block (child : registry.Overriding name) : Block Node :=
  ⟨name, false, child.body⟩

/-- What the tokens are parsed to. -/
def nodes (child : registry.Overriding name) : List Node :=
  child.front ++ .block child.block :: child.rest

/-- Looking ahead finds no mention up to the end of the block. -/
theorem superAhead_eq (hStandard : registry.HasStandardTags)
    (child : registry.Overriding name) :
    Tag.superAhead 0 (child.inside ++ child.closing :: child.behind) = false := by
  obtain ⟨-, taken, hTaken, hNested⟩ :=
    nests_parseUntil hStandard child.inside.length (Nat.le_refl _) child.parsesInside
  rw [List.append_nil] at hTaken
  rw [hTaken, hNested.superAhead_append (fun hEnds => hEnds.closes_or_idle), ← hTaken,
    Tag.superAhead_closing child.closes, Bool.or_false, List.any_eq_false]
  exact fun token hToken => by rw [child.silent token hToken]; exact Bool.noConfusion

theorem parseAll_tokens (hStandard : registry.HasStandardTags)
    (child : registry.Overriding name) :
    registry.parseAll child.tokens = .ok child.nodes [] := by
  have hBody := (yields_of_parseAll hStandard child.parsesInside child.plainBody).upTo
    (by decide : ∀ name ∈ ["endblock"], some name ∉ openingWords) child.closing
    child.closes
    List.mem_cons_self child.behind
  have hRun : (Tag.readBlock registry.findFilter (.block child.opening)).run
      registry.parseUntil
      (child.inside ++ child.closing :: child.behind) =
        .ok (.block child.block) child.behind :=
    Tag.run_readBlock_eq_ok_iff.mpr
      ⟨_, _, _, _, child.opens, hBody, by rw [child.superAhead_eq hStandard]; rfl⟩
  have hNode := Markup.readNode_tag hStandard child.opens (by simp [standardTags]) hRun
  have hEnds : ends (fun _ => false) (.block child.opening) = false := rfl
  have hRest : registry.parseAll
      (.block child.opening :: (child.inside ++ child.closing :: child.behind)) =
      .ok (.block child.block :: child.rest) [] := by
    show registry.parseUntil (fun _ => false) _ = _
    rw [parseUntil_cons_of_readNode hEnds hNode, Parser.map_apply,
      show registry.parseUntil (fun _ => false) child.behind = _
        from child.parsesBehind]
    rfl
  rw [tokens, parseAll_append hStandard child.parsesBefore child.plainFront, hRest]
  rfl

/-- No node of the template names another parent. -/
theorem any_isInherit (child : registry.Overriding name) :
    child.nodes.any Tag.isInherit = false := by
  rw [nodes, List.any_append, List.any_cons, child.plainFront, child.plainRest]
  rfl

/-- The block is the one that the template has for its name. -/
theorem lastBlock?_nodes (child : registry.Overriding name) :
    lastBlock? child.nodes name = some child.block := by
  rw [nodes, lastBlock?_append, ← List.singleton_append, lastBlock?_append, child.last]
  simp [lastBlock?, block]

end Overriding

end Registry

/-! ## Two bases -/

namespace Environment

open Render

variable {env : Environment σ} {shelf : Shelf σ} {name : String}

/-- The blocks of a derived template. -/
def blocksOf (child : env.registry.Overriding name) : List (String × Block Node) :=
  Entries.ofList (child.nodes.filterMap Tag.namedBlock?)

private theorem parse_of_overriding (hStandard : env.registry.HasStandardTags)
    (child : env.registry.Overriding name) {source operand : String}
    (hSource : Extends source operand child.tokens) :
    env.parse source = .ok [.inherit (Variable.ofString operand) (blocksOf child)] := by
  rw [parse_extends hStandard.findTag_extends hSource, child.parseAll_tokens hStandard]
  simp only [child.any_isInherit, Bool.false_eq_true, if_false, blocksOf]

/-- Whether a derived template parses does not depend on which parent it names. -/
private theorem parse_eq_error_of_extends (hStandard : env.registry.HasStandardTags)
    {source source' operand operand' : String} {tokens : List Token}
    (hSource : Extends source operand tokens)
    (hSource' : Extends source' operand' tokens) {error : Error}
    (h : env.parse source = .error error) :
    env.parse source' = .error error := by
  rw [parse_extends hStandard.findTag_extends hSource] at h
  rw [parse_extends hStandard.findTag_extends hSource']
  cases hTokens : env.registry.parseAll tokens with
  | error error left => simpa only [hTokens] using h
  | ok nodes left =>
      simp only [hTokens] at h ⊢
      split at h
      · rename_i hRepeats
        rw [if_pos hRepeats]
        exact h
      · cases h

private theorem result_renderText_of_error {source : String} {error : Error}
    (h : env.parse source = .error error) (data : Mapping Value) :
    (env.renderText source data).result shelf = .error error := by
  rw [renderText, Session.result_bind, parseTemplate, h]
  rfl

/-- When the base of a derived template comes to be rendered, the block is reserved. -/
private theorem reserves_of_overriding (hFixed : env.Unchanging)
    (child : env.registry.Overriding name)
    (hOthers : ∀ region, .block region ∈ child.nodes → region.name ≠ name →
      Node.Everywhere (env.Loads shelf) (Node.OtherThan name) [.block region])
    (scopes : Scopes) (parent : String) :
    env.Reserves shelf name child.block
      ⟨scopes, some (Overrides.merge Mapping.empty (blocksOf child)),
        (env.load parent).after shelf⟩ where
  waiting := by
    refine ⟨_, rfl, ?_, fun {other region} hOther hRegion => ?_⟩
    · rw [Overrides.get?_merge, blocksOf, get?_blocks, child.lastBlock?_nodes]
      rfl
    · rw [Overrides.get?_merge, blocksOf, get?_blocks] at hRegion
      obtain ⟨hName, hMem⟩ :=
        eq_name_of_lastBlock? (hRegion : lastBlock? child.nodes other = some region)
      exact hOthers region hMem (hName ▸ hOther)
  shelf := .after_load hFixed shelf parent

/-- A derived template whose block does not mention what it replaces renders to the same
text, or fails with the same error, whichever of two bases it is derived from that
differ in the body that the block replaces. The loader is fixed, and the other blocks of
the template come to no block of that name. -/
theorem renderText_eq_of_differ (hFixed : env.Unchanging)
    (hStandard : env.registry.HasStandardTags)
    {source source' operand operand' : String} {tokens : List Token}
    (hSource : Extends source operand tokens)
    (hSource' : Extends source' operand' tokens)
    (hChild : ∀ nodes, env.parse source = .ok nodes →
      ∃ child : env.registry.Overriding name,
      child.tokens = tokens ∧ ∀ region, .block region ∈ child.nodes →
        region.name ≠ name →
        Node.Everywhere (env.Loads shelf) (Node.OtherThan name) [.block region])
    {data : Mapping Value} {parent parent' : String}
    (hParent : (Variable.ofString operand).resolve [data] = .string parent)
    (hParent' : (Variable.ofString operand').resolve [data] = .string parent')
    {base base' : Template} (hBase : env.Loads shelf parent base)
    (hBase' : env.Loads shelf parent' base')
    (hBases : Node.DifferIn (env.Loads shelf) name base.nodes base'.nodes ∨
      Node.DifferInside (env.Loads shelf) name base.nodes base'.nodes) :
    (env.renderText source data).result shelf =
      (env.renderText source' data).result shelf := by
  cases hNodes : env.parse source with
  | error error =>
      have hNodes' := parse_eq_error_of_extends hStandard hSource hSource' hNodes
      rw [result_renderText_of_error hNodes, result_renderText_of_error hNodes']
  | ok nodes =>
      obtain ⟨child, rfl, hOthers⟩ := hChild nodes hNodes
      let first : Context σ :=
        ⟨[data], some (Overrides.merge Mapping.empty (blocksOf child)),
          (env.load parent).after shelf⟩
      let second : Context σ :=
        ⟨[data], some (Overrides.merge Mapping.empty (blocksOf child)),
          (env.load parent').after shelf⟩
      have hReserves : env.Reserves shelf name child.block (first.push Mapping.empty) :=
        (reserves_of_overriding hFixed child hOthers [data] parent).push Mapping.empty
      have hBodies : (env.renderLayered env.maxDepth base.nodes).result
          (first.push Mapping.empty) =
          (env.renderLayered env.maxDepth base'.nodes).result
          (first.push Mapping.empty) := by
        rcases hBases with hDiffer | hDiffer
        · exact result_eq_of_eq (renderLayered_eq_of_differIn hFixed rfl hDiffer
            hReserves env.maxDepth)
        · exact result_renderLayered_of_differInside hFixed rfl hDiffer hReserves
            env.maxDepth
      -- The contexts differ in which of the bases has been loaded.
      have hSame : env.SameFor first second :=
        ⟨rfl, rfl, (LoadsAlike.after_load hFixed shelf parent).trans
          (LoadsAlike.after_load hFixed shelf parent').symm⟩
      calc (env.renderText source data).result shelf
          = (env.within Mapping.empty
            (env.renderLayered env.maxDepth base.nodes)).result first := by
            rw [result_renderText_of_inherit
              (parse_of_overriding hStandard child hSource) hParent,
              show (env.load parent).result shelf = .ok base from hBase]
            rfl
        _ = (env.within Mapping.empty
            (env.renderLayered env.maxDepth base'.nodes)).result first := by
            rw [Environment.within, Environment.within, result_within, result_within,
              hBodies]
        _ = (env.within Mapping.empty
            (env.renderLayered env.maxDepth base'.nodes)).result second :=
            (hSame.within hFixed Mapping.empty env.maxDepth base'.nodes).1
        _ = (env.renderText source' data).result shelf := by
            rw [result_renderText_of_inherit
              (parse_of_overriding hStandard child hSource') hParent',
              show (env.load parent').result shelf = .ok base' from hBase']
            rfl

/-! ## Two bases side by side -/

/-- The source of a derived template with one block. -/
def childSource (parent body : String) : String :=
  "\x7b% extends " ++ inQuotes parent ++ " %\x7d\x7b% block body %\x7d" ++ body ++
    "\x7b% endblock %\x7d"

/-- The derived template as it is parsed. -/
def childNodes (parent : String) (usesSuper : Bool) (part : Node) : List Node :=
  [.inherit (Variable.ofString (inQuotes parent))
    [("body", ⟨"body", usesSuper, [part]⟩)]]

/-- A base with a block between brackets. -/
def bracketed (body : String) : String :=
  "[\x7b% block body %\x7d" ++ body ++ "\x7b% endblock %\x7d]"

/-- The base as it is parsed. -/
def bracketedNodes (part : Node) : List Node :=
  [.text "[", .block ⟨"body", false, [part]⟩, .text "]"]

/-- The inclusion of a template whose name is not given. -/
def nameless : Node :=
  .embed (Variable.ofString "x") none

/-- An output of the words `block.super`. -/
def superLiteral : Node :=
  .output (.filtered ⟨"'block.super'", Variable.ofString "'block.super'", []⟩)

/-- Two bases on the shelf, besides a card with a block of the same name and a frame
with an inclusion that fails in its block. -/
def baseShelf (first second : List Node) : Shelf Unit :=
  let others : Mapping Template :=
    (Mapping.singleton "card" ⟨some "card",
      [.block ⟨"body", false, []⟩]⟩).insert "frame"
      ⟨some "frame", [.block ⟨"outer", false, [nameless]⟩]⟩
  ⟨(others.insert "first" ⟨some "first", first⟩).insert "second" ⟨some "second",
    second⟩, ()⟩

/-- An environment with a loader, which is not asked for what stands on the shelf. -/
def baseEnvironment (loader : Option (Loader Unit)) : Environment Unit :=
  { loader, clock := ⟨2024, 2, 29, 12, 0, 0, 0, 0⟩ }

/-- A sequence of two items. -/
def twoItems : Mapping Value :=
  Mapping.singleton "y" (.sequence [.nil, .nil])

/-- The tokens of the derived template behind the name of its parent. -/
def plainChild : Registry.Overriding [Extension.standard] "body" where
  before := []
  opening := "block body"
  inside := [.text "o"]
  closing := .block "endblock"
  behind := []
  front := []
  body := [.text "o"]
  rest := []
  parsesBefore := rfl
  parsesInside := rfl
  parsesBehind := rfl
  plainFront := rfl
  plainBody := rfl
  plainRest := rfl
  opens := rfl
  closes := rfl
  silent := by simp [Tag.mentionsSuper]
  last := rfl

/-- A derived template whose block is a text. -/
theorem parse_childSource_text : ∀ parent ∈ ["first", "second"],
    Registry.parse [Extension.standard] (childSource parent "o") =
      .ok (childNodes parent false (.text "o")) := by
  intro parent hParent
  rcases List.mem_pair.mp hParent with rfl | rfl
  · exact Registry.parse_of_tokenize (.block "extends 'first'" :: plainChild.tokens)
      (by decide +kernel) rfl
  · exact Registry.parse_of_tokenize (.block "extends 'second'" :: plainChild.tokens)
      (by decide +kernel) rfl

/-- An inclusion in the body that is replaced does not fail. -/
theorem renderText_eq_of_failing_body :
    let env := baseEnvironment (some (Loader.memory Mapping.empty))
    let shelf := baseShelf (bracketedNodes nameless) (bracketedNodes (.text "x"))
    (env.renderText (childSource "first" "o") twoItems).result shelf = .ok "[o]" ∧
      (env.renderText (childSource "first" "o") twoItems).result shelf =
        (env.renderText (childSource "second" "o") twoItems).result shelf := by
  intro env shelf
  have hFixed : env.Unchanging := by
    rintro _ ⟨⟩
    exact (Loader.coherent_memory _).fixed
  have hSource : Extends (childSource "first" "o") (inQuotes "first")
      plainChild.tokens :=
    ⟨"extends 'first'", by decide +kernel, rfl⟩
  have hSource' : Extends (childSource "second" "o") (inQuotes "second")
      plainChild.tokens :=
    ⟨"extends 'second'", by decide +kernel, rfl⟩
  have hFront : Node.Everywhere (env.Loads shelf) (Node.OtherThan "body") [.text "["] :=
    .of_plain (by simp [Node.partsOf, Node.parts, Node.leadsOut])
      (by simp [Node.All, Node.partsOf, Node.parts, Node.OtherThan])
  have hBase : env.Loads shelf "first" ⟨some "first", bracketedNodes nameless⟩ := rfl
  have hBase' : env.Loads shelf "second" ⟨some "second", bracketedNodes (.text "x")⟩ :=
    rfl
  have hParse : env.parse (childSource "first" "o") =
      .ok (childNodes "first" false (.text "o")) :=
    parse_childSource_text "first" (by simp)
  refine ⟨(result_renderText_of_parse hParse twoItems shelf).trans (by cbv), ?_⟩
  refine renderText_eq_of_differ hFixed (fun _ => rfl) hSource hSource'
    (fun _ _ => ⟨plainChild, rfl, ?_⟩)
    (Variable.resolve_inQuotes _ _) (Variable.resolve_inQuotes _ _) hBase hBase'
    (.inl (.behind hFront .here))
  intro region hRegion hOther
  cases List.mem_singleton.mp hRegion
  exact absurd rfl hOther

/-- A derived template with a body for the block renders to the one result or the other,
by which of two bases on the shelf it names. The bases are given by their sources. -/
def TellsApart (body first second : String) (result result' : Except Error String) :
    Prop :=
  ∃ nodes nodes', Registry.parse [Extension.standard] first = .ok nodes ∧
    Registry.parse [Extension.standard] second = .ok nodes' ∧ ∀ loader,
      let env := baseEnvironment loader
      let shelf := baseShelf nodes nodes'
      (env.renderText (childSource "first" body) twoItems).result shelf = result ∧
        (env.renderText (childSource "second" body) twoItems).result shelf = result'

private theorem tellsApart_of_parse {body first second : String}
    (nodes nodes' : List Node) (usesSuper : Bool) (part : Node)
    {result result' : Except Error String}
    (hFirst : Registry.parse [Extension.standard] first = .ok nodes)
    (hSecond : Registry.parse [Extension.standard] second = .ok nodes')
    (hChild : ∀ parent ∈ ["first", "second"],
      Registry.parse [Extension.standard] (childSource parent body) =
      .ok (childNodes parent usesSuper part))
    (hResult : ∀ loader,
      ((baseEnvironment loader).render (childNodes "first" usesSuper part)).result
      ⟨[twoItems], none, baseShelf nodes nodes'⟩ = result)
    (hResult' : ∀ loader,
      ((baseEnvironment loader).render (childNodes "second" usesSuper part)).result
      ⟨[twoItems], none, baseShelf nodes nodes'⟩ = result') :
    TellsApart body first second result result' := by
  have hParse : ∀ parent ∈ ["first", "second"], ∀ loader,
      (baseEnvironment loader).parse (childSource parent body) =
        .ok (childNodes parent usesSuper part) :=
    fun parent hMem _ => hChild parent hMem
  refine ⟨nodes, nodes', hFirst, hSecond, fun loader => ⟨?_, ?_⟩⟩
  · exact (result_renderText_of_parse (hParse "first" (by simp) loader)
      twoItems _).trans (hResult loader)
  · exact (result_renderText_of_parse (hParse "second" (by simp) loader)
      twoItems _).trans (hResult' loader)

/-- A literal is no mention of what is replaced, but it is taken for one. -/
private theorem tellsApart_bracketed : TellsApart "\x7b\x7b 'block.super' \x7d\x7d"
    (bracketed "\x7b% include x %\x7d") (bracketed "x")
    (.error (.fault (.nameNotText "x"))) (.ok "[block.super]") := by
  refine tellsApart_of_parse (bracketedNodes nameless) (bracketedNodes (.text "x")) true
    superLiteral ?_ ?_
    (fun parent hParent => ?_) (fun loader => by cbv) fun loader => by cbv
  · exact Registry.parse_of_tokenize
      [.text "[", .block "block body", .block "include x", .block "endblock", .text "]"]
      (by decide +kernel) rfl
  · exact Registry.parse_of_tokenize
      [.text "[", .block "block body", .text "x", .block "endblock",
        .text "]"] (by decide +kernel) rfl
  · rcases List.mem_pair.mp hParent with rfl | rfl
    · exact Registry.parse_of_tokenize
        [.block "extends 'first'", .block "block body", .output "'block.super'",
          .block "endblock"]
        (by decide +kernel) rfl
    · exact Registry.parse_of_tokenize
        [.block "extends 'second'", .block "block body", .output "'block.super'",
          .block "endblock"]
        (by decide +kernel) rfl

/-- A base with a block in the body of a loop. -/
def repeated (body : String) : String :=
  "\x7b% for x in y %\x7d\x7b% block body %\x7d" ++ body ++
    "\x7b% endblock %\x7d\x7b% endfor %\x7d"

/-- The tokens of this base. -/
def repeatedTokens (text : String) : List Token :=
  [.block "for x in y", .block "block body", .text text, .block "endblock",
    .block "endfor"]

private theorem parseAll_repeatedTokens (text : String) :
    Registry.parseAll [Extension.standard] (repeatedTokens text) =
      .ok [.loop ["x"] (.filtered ⟨"y", Variable.ofString "y", []⟩) none
        [.block ⟨"body", false, [.text text]⟩] []] [] := by
  have hSource : Operand.compile (Registry.findFilter [Extension.standard]) "y" =
      .ok (.filtered ⟨"y", Variable.ofString "y", []⟩) := by cbv
  have hNames : Tag.LoopHeader.splitNames "x" = ["x"] := by cbv
  have hYields := Markup.yields_tokensOf (fun _ => rfl)
    [.loop ⟨"for x in y", "x", "y", _, none, none, by cbv, hSource, rfl⟩
      [.block ⟨"block body", "body", by cbv⟩ [.text text]] none]
    Registry.passes_all (Registry.parseUntil_nil _ _)
  simp only [Markup.tokensOf, Markup.tokensBehind, Markup.opening, Markup.inner,
    Markup.nodesOf, Markup.node?, Markup.nodesBehind, hNames] at hYields
  exact hYields

/-- A block is replaced when it comes up for the first time, but not when a loop
goes on. -/
private theorem tellsApart_repeated :
    TellsApart "o" (repeated "a") (repeated "b") (.ok "oa") (.ok "ob") :=
  tellsApart_of_parse _ _ false (.text "o")
    (Registry.parse_of_tokenize (repeatedTokens "a") (by decide +kernel)
      (parseAll_repeatedTokens "a"))
    (Registry.parse_of_tokenize (repeatedTokens "b") (by decide +kernel)
      (parseAll_repeatedTokens "b"))
    parse_childSource_text (fun loader => by cbv) fun loader => by cbv

/-- A base that includes a card with a block of the same name in front of its own. -/
def behindCard (body : String) : String :=
  "\x7b% include 'card' %\x7d\x7b% block body %\x7d" ++ body ++ "\x7b% endblock %\x7d"

/-- The block replaces that of the card, and the base keeps its own. -/
private theorem tellsApart_behindCard :
    TellsApart "o" (behindCard "a") (behindCard "b") (.ok "oa") (.ok "ob") :=
  tellsApart_of_parse [.embed (Variable.ofString "'card'") none,
    .block ⟨"body", false, [.text "a"]⟩]
    [.embed (Variable.ofString "'card'") none, .block ⟨"body", false, [.text "b"]⟩]
      false (.text "o")
    (Registry.parse_of_tokenize
      [.block "include 'card'", .block "block body", .text "a", .block "endblock"]
        (by decide +kernel) rfl)
    (Registry.parse_of_tokenize
      [.block "include 'card'", .block "block body", .text "b", .block "endblock"]
        (by decide +kernel) rfl)
    parse_childSource_text (fun loader => by cbv) fun loader => by cbv

/-- A base that brings its block to a frame inside another block. -/
def inFrame (body : String) : String :=
  "\x7b% extends 'frame' %\x7d\x7b% block outer %\x7d\x7b% block body %\x7d" ++ body ++
    "\x7b% endblock %\x7d\x7b% endblock %\x7d"

/-- The outer block is rendered with what it replaces or without it. -/
private theorem tellsApart_inFrame :
    TellsApart "o" (inFrame "\x7b\x7b 'block.super' \x7d\x7d") (inFrame "x")
      (.error (.fault (.nameNotText "x"))) (.ok "o") :=
  tellsApart_of_parse
    [.inherit (Variable.ofString "'frame'")
      [("outer", ⟨"outer", true, [.block ⟨"body", true, [superLiteral]⟩]⟩)]]
    [.inherit (Variable.ofString "'frame'")
      [("outer", ⟨"outer", false, [.block ⟨"body", false, [.text "x"]⟩]⟩)]]
    false (.text "o")
    (Registry.parse_of_tokenize [.block "extends 'frame'", .block "block outer",
      .block "block body", .output "'block.super'", .block "endblock",
        .block "endblock"] (by decide +kernel) rfl)
    (Registry.parse_of_tokenize [.block "extends 'frame'", .block "block outer",
      .block "block body", .text "x", .block "endblock", .block "endblock"]
        (by decide +kernel) rfl)
    parse_childSource_text (fun loader => by cbv) fun loader => by cbv

/-- Two bases can be told apart by a block that has the words `block.super` in a
literal, and else if the place of the block comes up twice, be it in a loop or in a
template that is included in front of it, or if the body mentions what it replaces
inside a block around it. -/
theorem renderText_ne_of_differ :
    TellsApart "\x7b\x7b 'block.super' \x7d\x7d" (bracketed "\x7b% include x %\x7d")
      (bracketed "x")
      (.error (.fault (.nameNotText "x"))) (.ok "[block.super]") ∧
    TellsApart "o" (repeated "a") (repeated "b") (.ok "oa") (.ok "ob") ∧
    TellsApart "o" (behindCard "a") (behindCard "b") (.ok "oa") (.ok "ob") ∧
    TellsApart "o" (inFrame "\x7b\x7b 'block.super' \x7d\x7d") (inFrame "x")
      (.error (.fault (.nameNotText "x"))) (.ok "o") :=
  ⟨tellsApart_bracketed, tellsApart_repeated, tellsApart_behindCard, tellsApart_inFrame⟩

end Environment

end TextTemplate
