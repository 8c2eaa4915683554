import Mathlib
import TextTemplate.Proofs.Inheritance.Leftover
import TextTemplate.Proofs.Parsing.Naming

/-!
# A child without blocks

A template that names a parent and replaces none of its blocks renders as its parent
does, and yet it is not rendered in the same way: an empty mapping of blocks waits while
the parent is rendered, and the scopes are one deeper. `endsAlike_renderLayered` is
about just these differences, and here it is applied to whole templates.

## Main results

* `renderText_emptyChild` — the child renders to what its parent renders to.
* `renderText_emptyChild_of_leftover` — where an included template leaves a block over,
  it does not.
-/

namespace TextTemplate

variable {σ : Type}

namespace Environment

open Coupling Render

variable {env : Environment σ} {shelf other : Shelf σ}

/-- What is fetched from the loader has been parsed. -/
private theorem exists_source_of_fetched {name : String} {state : σ}
    {template : Template} (h : env.fetched name state = .ok template) :
    ∃ source, env.parse source = .ok template.nodes := by
  unfold fetched at h
  split at h
  · cases h
  · rename_i loader hLoader
    cases hAnswer : Loader.answer (loader.load name) state with
    | error error =>
        rw [hAnswer] at h
        cases h
    | ok source =>
        rw [hAnswer] at h
        change env.parsed name source = .ok template at h
        unfold parsed at h
        cases hParse : env.parse source with
        | error error =>
            rw [hParse] at h
            cases h
        | ok nodes =>
            rw [hParse] at h
            cases h
            exact ⟨source, hParse⟩

/-- If what stands on the shelf has been parsed, so has all that loads: it names a
parent at its end or nowhere. -/
private theorem placed_of_loads (hStandard : env.registry.HasStandardTags)
    (hParsed : ∀ name template, shelf.templates.get? name = some template →
      ∃ source, env.parse source = .ok template.nodes)
    (name : String) (template : Template) (h : env.Loads shelf name template) :
    Node.Placed template.nodes := by
  suffices hSource : ∃ source, env.parse source = .ok template.nodes from
    placed_of_parse hStandard hSource.choose_spec
  unfold Loads at h
  rw [result_load] at h
  split at h
  · rename_i hStands
    cases h
    unfold standing? at hStands
    split at hStands
    · exact hParsed name template hStands
    · cases hStands
  · exact exists_source_of_fetched h

/-- A child without blocks loads its parent, which is rendered in an empty scope with an
empty mapping of waiting blocks. -/
theorem result_emptyChild (hStandard : env.registry.HasStandardTags) {parent : String}
    (hQuote : '\'' ∉ parent.toList)
    (hClosing : ¬ Delimiter.block.closing <:+: parent.toList) (data : Mapping Value) :
    (env.renderText (emptyChild parent) data).result shelf =
      (env.load parent).result shelf >>= fun template =>
        (env.within Mapping.empty
          (env.renderLayered env.maxDepth template.nodes)).result
          ⟨[data], some Mapping.empty, (env.load parent).after shelf⟩ :=
  result_renderText_of_inherit (parse_emptyChild hStandard hQuote hClosing)
    (Variable.resolve_inQuotes parent _) shelf

/-- With a fixed loader and the standard tags, a template that names a parent and has no
blocks renders to what its parent renders to, be it a text or an error, unless it hits
the limit on the depth of scopes. The derived templates that the parent includes use up
their blocks, and no current time is printed unless both are rendered at the same
time. -/
theorem renderText_emptyChild (hFixed : env.Unchanging)
    (hStandard : env.registry.HasStandardTags)
    (hParsed : ∀ name template, shelf.templates.get? name = some template →
      ∃ source, env.parse source = .ok template.nodes)
    (hShelves : env.LoadsAlike shelf other) {parent : String}
    (hQuote : '\'' ∉ parent.toList)
    (hClosing : ¬ Delimiter.block.closing <:+: parent.toList) (later : Moment)
    (hSteady : ∀ template, env.Loads shelf parent template →
      Node.Everywhere (env.Loads shelf)
        (Node.Steady (later = env.clock)) template.nodes)
    (hSettles : ∀ template, env.Loads shelf parent template → ∀ included,
      Node.Includes (env.Loads shelf) template.nodes included →
        included.nodes.any Tag.isInherit = true → env.Settles shelf included.nodes)
    (data : Mapping Value)
    (hDepth : (env.renderText (emptyChild parent) data).result shelf ≠
      .error (.tooDeep env.maxDepth)) :
    (({ env with clock := later } : Environment σ).renderNamed
      parent data).result other =
      (env.renderText (emptyChild parent) data).result shelf := by
  let env' : Environment σ := { env with clock := later }
  have hLoad : (env'.load parent).result other = (env.load parent).result shelf :=
    (hShelves parent).symm
  rw [result_emptyChild hStandard hQuote hClosing] at hDepth ⊢
  rw [renderNamed, Session.result_bind, hLoad]
  cases hTemplate : (env.load parent).result shelf with
  | error error => rfl
  | ok template =>
      rw [hTemplate] at hDepth
      let first : Context σ :=
        ⟨[data], some Mapping.empty, (env.load parent).after shelf⟩
      let second : Context σ := ⟨[data], none, (env'.load parent).after other⟩
      show (env'.renderTemplate template data).result _ = (env.within _ _).result first
      change (env.within _ _).result first ≠ _ at hDepth
      unfold Environment.within at hDepth ⊢
      rw [result_within] at hDepth ⊢
      split at hDepth
      · exact absurd rfl hDepth
      · rename_i hRoom
        rw [if_neg hRoom, result_renderTemplate]
        have hUndisturbed : env.Undisturbed shelf (later = env.clock) template.nodes :=
          ⟨placed_of_loads hStandard hParsed parent template hTemplate,
            hSteady template hTemplate, hSettles template hTemplate⟩
        have hFixed' : env'.Unchanging := hFixed
        have hJoins : (env.emptied shelf).Joins (first.push Mapping.empty) second :=
          ⟨⟨.push_empty [data], Nat.le_succ _⟩, ⟨rfl, rfl⟩,
            LoadsAlike.after_load hFixed shelf parent,
              (LoadsAlike.after_load hFixed' other parent).trans hShelves.symm⟩
        have hEnds :=
          (endsAlike_renderLayered hFixed (placed_of_loads hStandard hParsed) id
            (Nat.le_succ env.maxDepth) hUndisturbed).1 _ _ hJoins
        rcases hEnds.eq_or_excused with hEq | ⟨error, hError, rfl⟩
        · exact hEq
        · exact absurd hError hDepth

/-! ## A block of the same name

A page includes a card, which is derived from a frame, and has a block of the same name
as the card. Whether the frame has this block, too, decides whether the block of the
card is left over. -/

/-- The source of a template that includes a derived one and has a block. -/
def pageSource : String :=
  "\x7b% include 'card' %\x7d|\x7b% block title %\x7dDefault\x7b% endblock %\x7d"

/-- The template that includes a derived one. -/
def pageNodes : List Node :=
  [.embed (Variable.ofString "'card'") none, .text "|",
    .block ⟨"title", false, [.text "Default"]⟩]

/-- The source of a derived template with one block. -/
def cardSource : String :=
  "\x7b% extends 'frame' %\x7d\x7b% block title %\x7dCard\x7b% endblock %\x7d"

/-- The block of the derived template. -/
def cardTitle : Block Node :=
  ⟨"title", false, [.text "Card"]⟩

/-- The derived template. -/
def cardNodes : List Node :=
  [.inherit (Variable.ofString "'frame'") [("title", cardTitle)]]

/-- The sources of the three templates. -/
def pageSources (frame : String) : Mapping String :=
  ((Mapping.empty.insert "page" pageSource).insert "card" cardSource).insert
    "frame" frame

/-- The three templates as they are parsed. -/
def pageShelf (frame : List Node) : Shelf Unit :=
  let templates : Mapping Template :=
    (Mapping.empty.insert "page" ⟨some "page", pageNodes⟩).insert "card"
      ⟨some "card", cardNodes⟩
  ⟨templates.insert "frame" ⟨some "frame", frame⟩, ()⟩

/-- An environment that serves the three templates. -/
def pageEnvironment (frame : String) : Environment Unit :=
  { loader := some (Loader.memory (pageSources frame)),
    clock := ⟨2024, 2, 29, 12, 0, 0, 0, 0⟩ }

theorem unchanging_pageEnvironment (frame : String) :
    (pageEnvironment frame).Unchanging := by
  rintro _ ⟨⟩
  exact (Loader.coherent_memory _).fixed

private theorem parse_pageSource (frame : String) :
    (pageEnvironment frame).parse pageSource = .ok pageNodes := by
  have hTokens : tokenize pageSource =
      [.block "include 'card'", .text "|", .block "block title", .text "Default",
        .block "endblock"] := by cbv
  rw [Environment.parse, Registry.parse, hTokens]
  rfl

private theorem parse_cardSource (frame : String) :
    (pageEnvironment frame).parse cardSource = .ok cardNodes := by
  have hTokens : tokenize cardSource =
      [.block "extends 'frame'", .block "block title", .text "Card",
        .block "endblock"] := by cbv
  rw [Environment.parse, Registry.parse, hTokens]
  rfl

/-- The templates on the shelf are what the sources parse to, if the frame is. -/
theorem parsed_pageShelf {frame : List Node} {source : String}
    (hFrame : (pageEnvironment source).parse source = .ok frame) {name : String}
    {template : Template} (h : (pageShelf frame).templates.get? name = some template) :
    ∃ text, (pageSources source).get? name = some text ∧
      (pageEnvironment source).parse text = .ok template.nodes := by
  simp only [pageShelf, Mapping.get?_insert, Mapping.get?_empty] at h
  simp only [pageSources, Mapping.get?_insert, Mapping.get?_empty]
  split_ifs at h ⊢ <;> cases h
  · exact ⟨source, rfl, hFrame⟩
  · exact ⟨cardSource, rfl, parse_cardSource source⟩
  · exact ⟨pageSource, rfl, parse_pageSource source⟩

/-- Nothing loads but the three templates. -/
private theorem loads_pageShelf {frame : List Node} {source name : String}
    {template : Template}
    (h : (pageEnvironment source).Loads (pageShelf frame) name template) :
    template.nodes = frame ∨ template.nodes = cardNodes ∨
      template.nodes = pageNodes := by
  have hStanding : ∀ key, (pageEnvironment source).standing? (pageShelf frame) key =
      if "frame" = key then some ⟨some "frame", frame⟩
      else if "card" = key then some ⟨some "card", cardNodes⟩
      else if "page" = key then some ⟨some "page", pageNodes⟩ else none := by
    intro key
    show (pageShelf frame).templates.get? key = _
    simp only [pageShelf, Mapping.get?_insert, Mapping.get?_empty]
  have hStands := stands_of_loads rfl (fun key hNone => ?_) h
  · rw [hStanding] at hStands
    split_ifs at hStands <;> cases hStands
    · exact .inl rfl
    · exact .inr (.inl rfl)
    · exact .inr (.inr rfl)
  · rw [hStanding] at hNone
    simp only [pageSources, Mapping.get?_insert, Mapping.get?_empty]
    split_ifs at hNone ⊢
    rfl

/-- The block of the card leaves nothing of an empty mapping. -/
private theorem overrides_after_cardTitle {env : Environment Unit}
    {context : Context Unit} (hEmpty : context.overrides = some Mapping.empty) :
    ((env.render [.block cardTitle]).after context).overrides = some Mapping.empty := by
  have hNone : context.waiting? "title" = none := by
    rw [Context.waiting?, hEmpty]
    rfl
  rw [render_singleton, renderNode, cardTitle, renderBlock, after_bind,
    result_takeOverride, hNone]
  show ((Render.takeOverride "title").after context).overrides = _
  rw [after_takeOverride, hEmpty]
  rfl

/-- A frame that has the block of the card uses it up. -/
private theorem settles_card (source : String) :
    (pageEnvironment source).Settles (pageShelf [.block ⟨"title", false, []⟩])
      cardNodes := by
  refine settles_of_parent (unchanging_pageEnvironment source) (fun _ => rfl) rfl
    fun context text _ hWaiting hText => ?_
  have hTaken : context.waiting? "title" = some cardTitle := by
    rw [Context.waiting?, hWaiting]
    rfl
  have hErased : (Render.takeOverride "title").after context =
      { context with overrides := some Mapping.empty } := by
    rw [after_takeOverride, hWaiting]
    rfl
  show (((pageEnvironment source).render [.block ⟨"title", false, []⟩]).after
    context).overrides = _
  rw [render_singleton, renderNode, renderBlock, after_bind, result_takeOverride,
    hTaken, hErased]
  simp only [renderReplacement, cardTitle, Bool.false_eq_true, if_false]
  rw [Environment.within, after_within]
  split
  · rfl
  · exact overrides_after_cardTitle rfl

/-- The frame has the block of the card, so nothing of it is left when the page goes
on. -/
theorem renderText_emptyChild_of_used :
    let source := "\x7b% block title %\x7d\x7b% endblock %\x7d"
    let env := pageEnvironment source
    let env' : Environment Unit := { env with clock := ⟨2024, 3, 1, 12, 0, 0, 0, 0⟩ }
    let shelf := pageShelf [.block ⟨"title", false, []⟩]
    (env.renderText (emptyChild "page") Mapping.empty).result shelf =
      .ok "Card|Default" ∧
      (env'.renderNamed "page" Mapping.empty).result shelf =
        (env.renderText (emptyChild "page") Mapping.empty).result shelf := by
  intro source env env' shelf
  have hTokens : tokenize source = [.block "block title", .block "endblock"] := by cbv
  have hFrame : env.parse source = .ok [.block ⟨"title", false, []⟩] := by
    rw [Environment.parse, Registry.parse, hTokens]
    rfl
  have hParsed : ∀ name template, shelf.templates.get? name = some template →
      ∃ text, env.parse text = .ok template.nodes := by
    intro name template h
    obtain ⟨text, -, hText⟩ := parsed_pageShelf hFrame h
    exact ⟨text, hText⟩
  have hText : (env.renderText (emptyChild "page") Mapping.empty).result shelf =
      .ok "Card|Default" := by
    rw [result_emptyChild (fun _ => rfl) (by decide) (by decide)]
    cbv
  have hSteady : ∀ {name template}, env.Loads shelf name template →
      Node.All (Node.Steady (env'.clock = env.clock)) template.nodes := by
    intro name template h
    rcases loads_pageShelf h with hNodes | hNodes | hNodes <;> rw [hNodes] <;>
      simp [cardNodes, cardTitle, pageNodes, Node.All, Node.partsOf, Node.parts,
        Block.partsOf, Block.parts, Node.Steady]
  refine ⟨hText, renderText_emptyChild (unchanging_pageEnvironment source)
    (fun _ => rfl) hParsed (.refl _)
    (by decide) (by decide) _ (fun template hTemplate => ?_)
    (fun template hTemplate included hIncluded hDerived => ?_) Mapping.empty ?_⟩
  · exact .of_loadable (hSteady hTemplate) (fun _ _ => hSteady) fun _ => id
  · obtain ⟨name, hLoads⟩ := hIncluded.exists_loads
    rcases loads_pageShelf hLoads with hNodes | hNodes | hNodes <;>
      rw [hNodes] at hDerived ⊢
    · cases hDerived
    · exact settles_card source
    · cases hDerived
  · rw [hText]
    exact fun hDeep => by cases hDeep

/-- Where the frame does not use the block of the card, this block replaces the one of
the page, but only if the page is rendered for a child. -/
theorem renderText_emptyChild_of_leftover :
    let env := pageEnvironment "[]"
    let shelf := pageShelf [.text "[]"]
    (∀ name template, shelf.templates.get? name = some template →
      ∃ source, (pageSources "[]").get? name = some source ∧
        env.parse source = .ok template.nodes) ∧
    (env.renderNamed "page" Mapping.empty).result shelf = .ok "[]|Default" ∧
    (env.renderText (emptyChild "page") Mapping.empty).result shelf =
      .ok "[]|Card" := by
  intro env shelf
  have hTokens : tokenize "[]" = [.text "[]"] := by cbv
  have hFrame : env.parse "[]" = .ok [.text "[]"] := by
    rw [Environment.parse, Registry.parse, hTokens]
    rfl
  refine ⟨fun name template h => parsed_pageShelf hFrame h, by cbv, ?_⟩
  rw [result_emptyChild (fun _ => rfl) (by decide) (by decide)]
  cbv

end Environment

end TextTemplate
