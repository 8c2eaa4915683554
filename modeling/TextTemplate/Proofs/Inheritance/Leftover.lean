import TextTemplate.Proofs.Coupling.Steady
import TextTemplate.Proofs.Parsing.Placement

/-!
# Blocks that are left over

A derived template may bring blocks that its ancestors have no use for. Where no blocks
waited before, these are dropped when the template is done. Where some did, if only an
empty mapping of them, they go on to wait, and if the template was included by another
one, they replace blocks of that one which have nothing to do with them.

So an empty mapping of waiting blocks is not the same as none. This module couples a
rendering for which an empty mapping waits with one for which nothing waits, and
proves that they are in step as long as every derived template that is included uses
up its blocks. Behind the name of a parent nothing has to be asked any more: the same
blocks wait there on either side, and the renderings are in step as any two with a
fixed loader are.

## Main definitions

* `Node.Includes` — the templates that nodes include, in front of the names of parents.
* `Environment.Settles` — where an empty mapping of blocks waits, an empty one is left.

## Main results

* `Environment.endsAlike_renderLayered` — the two renderings give the same result.
-/

namespace TextTemplate

variable {σ α β : Type}

/-! ## Included templates -/

/-- Nodes include a template themselves: a tag that includes it, by some value of its
operand, stands in one of them that does not name a parent. -/
def Node.IncludesItself (loads : String → Template → Prop) (nodes : List Node)
    (template : Template) :
    Prop :=
  ∃ node ∈ nodes, Tag.isInherit node = false ∧ ∃ name bindings,
    .embed name bindings ∈ node.parts ∧
    ∃ scopes text, name.resolve scopes = .string text ∧ loads text template

/-- Nodes include a template, themselves or in another one that they include. -/
inductive Node.Includes (loads : String → Template → Prop) (nodes : List Node) :
    Template → Prop where
  | itself {template : Template} (h : IncludesItself loads nodes template) :
      Includes loads nodes template
  | further {outer template : Template} (hOuter : Includes loads nodes outer)
      (h : IncludesItself loads outer.nodes template) : Includes loads nodes template

namespace Node

variable {loads : String → Template → Prop} {nodes : List Node} {template : Template}

theorem Includes.trans {outer : Template} (hOuter : Includes loads nodes outer)
    (h : Includes loads outer.nodes template) : Includes loads nodes template := by
  induction h with
  | itself h => exact .further hOuter h
  | further _ h ih => exact .further ih h

/-- What is included has been loaded by some name. -/
theorem Includes.exists_loads (h : Includes loads nodes template) :
    ∃ name, loads name template := by
  cases h with
  | itself h =>
      obtain ⟨_, -, -, _, _, -, _, name, -, hLoads⟩ := h
      exact ⟨name, hLoads⟩
  | further _ h =>
      obtain ⟨_, -, -, _, _, -, _, name, -, hLoads⟩ := h
      exact ⟨name, hLoads⟩

/-- What a node inside others includes, these include. -/
theorem Includes.of_part {node part : Node} (hNode : node ∈ nodes)
    (hNot : Tag.isInherit node = false) (hPart : part ∈ node.parts)
    (h : Includes loads [part] template) : Includes loads nodes template := by
  induction h with
  | itself h =>
      obtain ⟨inner, hInner, -, name, bindings, hEmbed, hLoads⟩ := h
      rw [List.mem_singleton.mp hInner] at hEmbed
      exact .itself ⟨node, hNode, hNot, name, bindings,
        Node.parts_subset node hPart hEmbed, hLoads⟩
  | further _ h ih => exact .further ih h

/-- A tag that includes a template, and what that one includes. -/
theorem Includes.of_embed {name : Variable} {bindings : Option Variable}
    {scopes : Scopes} {text : String} (hName : name.resolve scopes = .string text)
    (hLoads : loads text template) :
    Includes loads [.embed name bindings] template :=
  .itself ⟨_, List.mem_singleton_self _, rfl, name, bindings, List.mem_cons_self,
    scopes, text, hName, hLoads⟩

end Node

/-! ## Templates that use up their blocks -/

namespace Environment

open Coupling Render

variable {env : Environment σ} {start : Shelf σ} {still : Prop} {nodes : List Node}

/-- Where an empty mapping of blocks waits, an empty one is left behind by a
rendering of the nodes that succeeds, from every shelf from which names load as they
do from the start. -/
def Settles (env : Environment σ) (start : Shelf σ) (nodes : List Node) : Prop :=
  ∀ (context : Context σ) (text : String), env.LoadsAlike context.shelf start →
    context.overrides = some Mapping.empty →
      (env.render nodes).result context = .ok text →
      ((env.render nodes).after context).overrides = some Mapping.empty

/-- A rendering that succeeds with fewer layers leaves the same blocks as with all
of them. -/
theorem Settles.layered (hSettles : env.Settles start nodes) (hFixed : env.Unchanging)
    (hSteady : Node.Everywhere (env.Loads start) (Node.Steady still) nodes)
    {layers : Nat} (hLayers : layers ≤ env.maxDepth + 1) {context : Context σ}
    (hShelf : env.LoadsAlike context.shelf start)
    (hEmpty : context.overrides = some Mapping.empty) {text : String}
    (h : (env.renderLayered layers nodes).result context = .ok text) :
    ((env.renderLayered layers nodes).after context).overrides =
      some Mapping.empty := by
  let coupling := env.steadily start still Scopes.Level
    (· = .tooDeep env.maxDepth) False
  have hTandem : Tandem coupling env env _ _ :=
    tandem_steadily hFixed env.maxDepth env.maxRange env.clock
    (fun _ => rfl) (opens_level _ _ env.maxDepth)
    (fun _ _ hScopes => hScopes.1) (.inl rfl)
  have hJoins : coupling.Joins context context := by
    refine ⟨⟨.refl _, rfl⟩, ⟨rfl, fun name block hBlock => ?_⟩, hShelf, hShelf⟩
    rw [hEmpty] at hBlock
    cases hBlock
  have hRun := hTandem.inStep_renderLayered (env.maxDepth + 1 - layers)
    (.inr rfl) layers nodes hSteady.each context context hJoins
  rw [Nat.add_sub_cancel' hLayers, h] at hRun
  obtain ⟨hResult, hLeft⟩ := hRun
  rw [← hLeft.overrides.1]
  exact hSettles context text hShelf hEmpty hResult

/-- A template that does nothing but name a parent uses up its blocks if they are used
up where the parent is rendered. -/
theorem settles_of_parent (hFixed : env.Unchanging) {parent : Variable}
    {blocks : List (String × Block Node)} {name : String} {template : Template}
    (hName : ∀ scopes, parent.resolve scopes = .string name)
    (hLoads : env.Loads start name template)
    (hParent : ∀ (context : Context σ) (text : String),
      env.LoadsAlike context.shelf start →
      context.overrides = some (Overrides.merge Mapping.empty blocks) →
        (env.render template.nodes).result context = .ok text →
          ((env.render template.nodes).after context).overrides = some Mapping.empty) :
    env.Settles start [.inherit parent blocks] := by
  intro context text hShelf hEmpty hText
  have hNamed : (env.loadNamed parent).result context = .ok template := by
    rw [result_loadNamed, hName]
    exact (hShelf name).trans hLoads
  have hAfter := env.after_loadNamed (hName context.scopes)
  rw [render_singleton] at hText ⊢
  change (env.renderParent _ _ _).result _ = _ at hText
  change ((env.renderParent _ _ _).after _).overrides = _
  rw [renderParent_eq_lending] at hText ⊢
  simp only [result_bind, after_bind, hNamed, hAfter, result_lending, after_lending,
    hEmpty] at hText ⊢
  unfold Environment.within at hText ⊢
  rw [result_within] at hText
  rw [after_within]
  split at hText
  · cases hText
  · rename_i hRoom
    rw [if_neg hRoom]
    exact hParent _ text ((LoadsAlike.after_load hFixed context.shelf name).trans
      hShelf) rfl hText

/-! ## An empty mapping and none -/

/-- The coupling of two renderings for which the same blocks wait, where the scopes of
the first one may be nested deeper. -/
def lowered (env : Environment σ) (start : Shelf σ) (still : Prop) : Coupling σ :=
  env.steadily start still Scopes.Above (· = .tooDeep env.maxDepth) False

/-- The coupling of two renderings for which no blocks wait, where the first one has an
empty mapping of them, and the scopes of the first one may be nested deeper. -/
def emptied (env : Environment σ) (start : Shelf σ) : Coupling σ where
  scopes := Scopes.Above
  overrides first second := first = some Mapping.empty ∧ second = none
  shelves first second := env.LoadsAlike first start ∧ env.LoadsAlike second start
  excused error := error = .tooDeep env.maxDepth
  lasting := False

/-- Nodes that are rendered alike whether an empty mapping of blocks waits or none: they
name a parent at their end or nowhere, only steady nodes can be reached from them, and
the derived templates that they include use up their blocks. -/
structure Undisturbed (env : Environment σ) (start : Shelf σ) (still : Prop)
    (nodes : List Node) : Prop where
  placed : Node.Placed nodes
  steady : Node.Everywhere (env.Loads start) (Node.Steady still) nodes
  settles (template : Template) (h : Node.Includes (env.Loads start) nodes template)
    (hDerived : template.nodes.any Tag.isInherit = true) :
      env.Settles start template.nodes

/-- What stands in undisturbed nodes in front of the name of a parent is undisturbed
by itself. -/
theorem Undisturbed.front {front more : List Node}
    (h : env.Undisturbed start still (front ++ more))
    (hFront : Node.All Node.Inner front) :
    Node.All (fun part => part.Inner ∧ env.Undisturbed start still [part]) front := by
  intro part hPart
  obtain ⟨node, hNode, hInside⟩ := Node.mem_partsOf_iff.mp hPart
  have hNot : Tag.isInherit node = false :=
    (hFront node (Node.mem_partsOf_iff.mpr ⟨node, hNode, node.mem_parts⟩)).2
  have hParts : part.parts ⊆ Node.partsOf front := Node.partsOf_subset front hPart
  refine ⟨hFront part hPart, .inl fun other hOther => ?_,
    h.steady.of_subset fun other hOther => ?_, fun template hTemplate => ?_⟩
  · rw [Node.partsOf_singleton] at hOther
    exact hFront other (hParts hOther)
  · rw [Node.partsOf_singleton] at hOther
    obtain ⟨outer, hOuter, hMem⟩ := Node.mem_partsOf_iff.mp (hParts hOther)
    exact Node.mem_partsOf_iff.mpr ⟨outer, List.mem_append_left _ hOuter, hMem⟩
  · exact h.settles template
      (hTemplate.of_part (List.mem_append_left _ hNode) hNot hInside)

/-- A template that an undisturbed tag includes is undisturbed. -/
theorem Undisturbed.of_embed
    (hPlaced : ∀ name template, env.Loads start name template →
      Node.Placed template.nodes) {name : Variable} {bindings : Option Variable}
    (h : env.Undisturbed start still [.embed name bindings]) {scopes : Scopes}
    {text : String} (hName : name.resolve scopes = .string text) {template : Template}
    (hLoads : env.Loads start text template) :
    env.Undisturbed start still template.nodes where
  placed := hPlaced text template hLoads
  steady := h.steady.of_loaded rfl hName hLoads
  settles other hOther :=
    h.settles other ((Node.Includes.of_embed hName hLoads).trans hOther)

/-- With a fixed loader the two renderings are in step on undisturbed nodes that name no
parent, if a derived template that is included uses up its blocks. -/
theorem tandem_emptied (hFixed : env.Unchanging) (hPlaced : ∀ name template,
      env.Loads start name template → Node.Placed template.nodes) {clock : Moment}
    (hStill : still → clock = env.clock) :
    Tandem (env.emptied start) env (env.adjusted env.maxDepth env.maxRange clock)
      (fun node => node.Inner ∧ env.Undisturbed start still [node])
      (fun nodes => env.Undisturbed start still nodes ∧
        (nodes.any Tag.isInherit = true → env.Settles start nodes)) where
  opens := {
    push scope h := ⟨h.1.push scope, Nat.succ_le_succ h.2⟩
    room h hRoom := Nat.le_trans h.2 hRoom
    full _ _ := .inl rfl }
  alike h := h.1
  range := .inl rfl
  waiting := by
    rintro first second ⟨rfl, rfl⟩ name
    rfl
  erase := by
    rintro block - first second ⟨rfl, rfl⟩
    exact ⟨rfl, rfl⟩
  waits := by
    rintro block replacement - first second ⟨rfl, rfl⟩ hWaits
    cases hWaits
  lend hFits := absurd hFits.1.2 Bool.noConfusion
  load name first second h := .of_eq ((h.2.trans h.1.symm) name)
    ⟨(LoadsAlike.after_load hFixed first name).trans h.1,
      (LoadsAlike.after_load hFixed second name).trans h.2⟩
  loaded := by
    intro node hFits operand hOperand scopes name hName first second h template hLoad
    cases node with
    | embed other bindings =>
        cases hOperand
        have hLoads : env.Loads start name template := (h.1 name).symm.trans hLoad
        exact ⟨hFits.2.of_embed hPlaced hName hLoads,
          hFits.2.settles template (.of_embed hName hLoads)⟩
    | inherit parent blocks => exact absurd hFits.1.2 Bool.noConfusion
    | _ => cases hOperand
  clock hFits := hStill hFits.2.steady.self
  custom hFits := hFits.2.steady.self.elim

/-! ## Renderings of undisturbed nodes -/

variable {clock : Moment} (hFixed : env.Unchanging)
  (hPlaced : ∀ name template, env.Loads start name template →
    Node.Placed template.nodes)
  (hStill : still → clock = env.clock)

include hFixed hPlaced hStill

/-- For the parent of undisturbed nodes the same blocks wait on either side. -/
theorem endsAlike_renderParent {deeper deeper' : List Node → Render σ String}
    (hKeeps : ∀ nodes, (deeper nodes).Keeps False)
    (hKeeps' : ∀ nodes, (deeper' nodes).Keeps False)
    (hDeeper : ∀ nodes, Node.Everywhere (env.Loads start) (Node.Steady still) nodes →
      (env.lowered start still).InStep (deeper nodes) (deeper' nodes))
    {parent : Variable} {blocks : List (String × Block Node)}
    (h : Node.Everywhere (env.Loads start) (Node.Steady still)
      [.inherit parent blocks]) :
    (env.emptied start).EndsAlike (env.renderParent parent blocks deeper)
      ((env.adjusted env.maxDepth env.maxRange clock).renderParent parent
        blocks deeper') := by
  rw [renderParent_eq_lending, renderParent_eq_lending]
  refine .bind_of (fun template => Node.Everywhere (env.Loads start)
    (Node.Steady still) template.nodes)
    ((tandem_emptied hFixed hPlaced hStill).inStep_loadNamed parent) ?_
    fun template hTemplate => ?_
  · intro context other hJoins template hLoaded
    obtain ⟨name, hName, hLoad⟩ := load_of_loadNamed hLoaded
    exact h.of_loaded rfl hName ((hJoins.shelves.1 name).symm.trans hLoad)
  · intro context other hJoins
    have hOpens : (env.lowered start still).Opens env.maxDepth env.maxDepth :=
      opens_above _ _ rfl (Nat.le_refl _)
    have hNothing : (env.lowered start still).overrides none none :=
      ⟨rfl, fun _ _ hBlock => by cases hBlock⟩
    let lent := some (Overrides.merge Mapping.empty blocks)
    have hLent : (env.lowered start still).Joins { context with overrides := lent }
        { other with overrides := lent } :=
          ⟨hJoins.scopes, lend_sharing h hNothing, hJoins.shelves⟩
    have hWithin := (hDeeper template.nodes hTemplate).within hOpens (hKeeps _)
      (hKeeps' _) Mapping.empty
    rw [result_lending, result_lending, hJoins.overrides.1, hJoins.overrides.2]
    exact (hWithin _ _ hLent).mono fun _ => trivial

/-- Undisturbed nodes are rendered to the same result, and if they name no parent, they
are rendered in step. -/
theorem endsAlike_renderNodes {deeper deeper' : List Node → Render σ String}
    (hKeeps : ∀ nodes, (deeper nodes).Keeps False)
    (hKeeps' : ∀ nodes, (deeper' nodes).Keeps False)
    (hReady : ∀ nodes, env.Undisturbed start still nodes →
      (nodes.any Tag.isInherit = true → env.Settles start nodes) →
        (env.emptied start).InStep (deeper nodes) (deeper' nodes))
    (hDeeper : ∀ nodes, Node.Everywhere (env.Loads start) (Node.Steady still) nodes →
      (env.lowered start still).InStep (deeper nodes) (deeper' nodes))
    (h : env.Undisturbed start still nodes) :
    (env.emptied start).EndsAlike (env.renderNodes deeper nodes)
        ((env.adjusted env.maxDepth env.maxRange clock).renderNodes deeper' nodes) ∧
      (nodes.any Tag.isInherit = false →
        (env.emptied start).InStep (env.renderNodes deeper nodes)
          ((env.adjusted env.maxDepth env.maxRange clock).renderNodes
            deeper' nodes)) := by
  have hFront : ∀ {front more : List Node},
      env.Undisturbed start still (front ++ more) →
      Node.All Node.Inner front →
        (env.emptied start).InStep (env.renderNodes deeper front)
        ((env.adjusted env.maxDepth env.maxRange clock).renderNodes deeper' front) :=
    fun {front more} hWhole hInner =>
      (tandem_emptied hFixed hPlaced hStill).inStep_renderNodes
      (fun inner hInner => hReady inner hInner.1 hInner.2) hKeeps hKeeps' front
      (hWhole.front hInner)
  have hSelf : env.Undisturbed start still (nodes ++ []) := by rwa [List.append_nil]
  refine ⟨?_, fun hNone => hFront hSelf (h.placed.inner hNone)⟩
  rcases h.placed with hInner | ⟨before, parent, blocks, rfl, hBefore, -⟩
  · exact (hFront hSelf hInner).endsAlike
  · rw [renderNodes_append, renderNodes_append, renderNodes_singleton,
      renderNodes_singleton]
    have hParent : Node.Everywhere (env.Loads start) (Node.Steady still)
        [.inherit parent blocks] := by
      refine h.steady.of_subset fun part hPart => ?_
      rw [Node.partsOf_singleton] at hPart
      exact Node.mem_partsOf_iff.mpr ⟨_,
        List.mem_append_right _ (List.mem_singleton_self _), hPart⟩
    have hLast := endsAlike_renderParent hFixed hPlaced hStill hKeeps hKeeps'
      hDeeper hParent
    exact .bind_of (fun _ => True) (hFront h hBefore) (fun _ _ _ _ _ => trivial)
      fun text _ => hLast.map (text ++ ·)

omit hPlaced hStill in
/-- Nodes that use up their blocks, in case they name a parent, are rendered in step if
they are rendered to the same result. -/
theorem inStep_of_settles {layers : Nat} (hLayers : layers ≤ env.maxDepth + 1)
    (h : env.Undisturbed start still nodes)
    (hSettles : nodes.any Tag.isInherit = true → env.Settles start nodes)
    (hLayer : (env.emptied start).EndsAlike (env.renderLayered layers nodes)
        ((env.adjusted env.maxDepth env.maxRange clock).renderLayered
          (layers + 1) nodes) ∧
      (nodes.any Tag.isInherit = false →
        (env.emptied start).InStep (env.renderLayered layers nodes)
        ((env.adjusted env.maxDepth env.maxRange clock).renderLayered
          (layers + 1) nodes))) :
    (env.emptied start).InStep (env.renderLayered layers nodes)
      ((env.adjusted env.maxDepth env.maxRange clock).renderLayered
        (layers + 1) nodes) := by
  let env' := env.adjusted env.maxDepth env.maxRange clock
  cases hInherit : nodes.any Tag.isInherit with
  | false => exact hLayer.2 hInherit
  | true =>
      intro context other hJoins
      have hResult := hLayer.1 context other hJoins
      cases hText : (env.renderLayered layers nodes).result context with
      | error error =>
          rw [hText] at hResult
          exact hResult.imp_right fun hSecond => ⟨hSecond.1, False.elim⟩
      | ok text =>
          rw [hText] at hResult
          have hFixed' : env'.Unchanging := hFixed
          have hFirst := env.keeps_renderLayered layers nodes context
          have hSecond := env'.keeps_renderLayered (layers + 1) nodes other
          refine ⟨hResult.1, ?_, ⟨?_, ?_⟩, ?_, ?_⟩
          · rw [hFirst.bindings h.placed.builtIn, hSecond.bindings h.placed.builtIn]
            exact hJoins.scopes
          · exact (hSettles hInherit).layered hFixed h.steady hLayers hJoins.shelves.1
              hJoins.overrides.1 hText
          · exact hSecond.overrides.mpr hJoins.overrides.2
          · exact (LoadsAlike.after_renderLayered hFixed layers nodes context).trans
              hJoins.shelves.1
          · exact (LoadsAlike.after_renderLayered hFixed'
              (layers + 1) nodes other).trans hJoins.shelves.2

/-- With a fixed loader undisturbed nodes are rendered to the same result whether an
empty mapping of blocks waits or none, and if they name no parent, they are rendered in
step. By induction on the layers. -/
theorem endsAlike_renderLayered {layers : Nat} (hLayers : layers ≤ env.maxDepth + 1)
    (h : env.Undisturbed start still nodes) :
    (env.emptied start).EndsAlike (env.renderLayered layers nodes)
        ((env.adjusted env.maxDepth env.maxRange clock).renderLayered
          (layers + 1) nodes) ∧
      (nodes.any Tag.isInherit = false →
        (env.emptied start).InStep (env.renderLayered layers nodes)
        ((env.adjusted env.maxDepth env.maxRange clock).renderLayered
          (layers + 1) nodes)) := by
  let env' := env.adjusted env.maxDepth env.maxRange clock
  have hTandem : Tandem (env.lowered start still) env env' _ _ :=
    tandem_steadily hFixed env.maxDepth
    env.maxRange clock hStill (opens_above _ _ rfl (Nat.le_refl _))
      (fun _ _ hScopes => hScopes.1) (.inl rfl)
  induction layers generalizing nodes with
  | zero =>
      exact endsAlike_renderNodes hFixed hPlaced hStill (fun _ => keeps_throw False _)
        (fun inner => (env'.keeps_renderLayered 0 inner).loosen)
        (fun _ _ _ => .excuse rfl _)
        (fun _ _ => .excuse rfl _) h
  | succ layers ih =>
      have hFewer : layers ≤ env.maxDepth + 1 := Nat.le_of_succ_le hLayers
      exact endsAlike_renderNodes hFixed hPlaced hStill
        (fun inner => (env.keeps_renderLayered layers inner).loosen)
        (fun inner => (env'.keeps_renderLayered (layers + 1) inner).loosen)
        (fun inner hInner hSettles => inStep_of_settles hFixed hFewer hInner hSettles
          (ih hFewer hInner))
        (fun inner hInner => hTandem.inStep_renderLayered 1 (.inr rfl) layers
          inner hInner.each) h

end Environment

end TextTemplate
