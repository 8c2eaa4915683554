import TextTemplate.Proofs.Node.Parts
import TextTemplate.Proofs.Render.Outcome

/-!
# Scopes are taken off again

A rendering opens scopes and lends blocks to the templates that it loads, and it may
fail at any depth. This module proves that it gives back what it took: the scopes that
were open before are open afterwards, and blocks wait afterwards exactly if some waited
before. Only a tag of the application's own binds names outside a scope of its own, and
then only in the innermost scope.

Two strengths are needed at once, because a body that binds names in its own scope
leaves the scope around it as it was. So `Kept` carries a proposition `exact`: the
bindings are unchanged if it holds. `Keeps.within` turns the weaker form into the
stronger one, and this is where every scope of an application's own bindings ends.

## Main results

* `Keeps.within` — a scope shields everything outside it.
* `keeps_renderNodes` — the induction over trees, for whatever leads out of the tree.
* `render_keeps_context` — a rendering keeps its context, in success and in failure.
-/

namespace TextTemplate

variable {σ α β : Type}

/-- What a rendering may do to a context: nothing to the number of scopes, to the scopes
outside the innermost one and to whether blocks wait; and nothing to any binding if
`exact` holds. -/
structure Context.Kept (exact : Prop) (before after : Context σ) : Prop where
  bindings : exact → after.scopes = before.scopes
  depth : after.scopes.length = before.scopes.length
  outer : after.scopes.tail = before.scopes.tail
  overrides : after.overrides = none ↔ before.overrides = none

namespace Context.Kept

theorem refl (exact : Prop) (context : Context σ) : Kept exact context context :=
  ⟨fun _ => rfl, rfl, rfl, Iff.rfl⟩

theorem trans {exact : Prop} {first second third : Context σ}
    (h₁ : Kept exact first second) (h₂ : Kept exact second third) :
    Kept exact first third :=
  ⟨fun h => (h₂.bindings h).trans (h₁.bindings h), h₂.depth.trans h₁.depth,
    h₂.outer.trans h₁.outer, h₂.overrides.trans h₁.overrides⟩

theorem mono {exact weaker : Prop} {before after : Context σ}
    (hKept : Kept exact before after) (h : weaker → exact) : Kept weaker before after :=
  ⟨fun hWeaker => hKept.bindings (h hWeaker), hKept.depth, hKept.outer, hKept.overrides⟩

/-- Unchanged scopes are kept in the stronger form. -/
theorem of_scopes_eq {before after : Context σ} (exact : Prop)
    (hScopes : after.scopes = before.scopes)
    (hOverrides : after.overrides = none ↔ before.overrides = none) :
    Kept exact before after :=
  ⟨fun _ => hScopes, by rw [hScopes], by rw [hScopes], hOverrides⟩

end Context.Kept

namespace Render

open Context

/-- A computation that keeps every context it runs in, whether it fails or not. -/
def Keeps (exact : Prop) (computation : Render σ α) : Prop :=
  ∀ context : Context σ, context.Kept exact (computation.after context)

namespace Keeps

theorem mono {exact weaker : Prop} {computation : Render σ α}
    (hKeeps : computation.Keeps exact) (h : weaker → exact) :
    computation.Keeps weaker :=
  fun context => (hKeeps context).mono h

/-- What is kept exactly is kept. -/
theorem loosen {exact : Prop} {computation : Render σ α}
    (hKeeps : computation.Keeps exact) :
    computation.Keeps False :=
  hKeeps.mono False.elim

theorem bind {exact : Prop} {first : Render σ α} {next : α → Render σ β}
    (hFirst : first.Keeps exact) (hNext : ∀ value, (next value).Keeps exact) :
    (first >>= next).Keeps exact := by
  intro context
  rw [after_bind]
  have hStart := hFirst context
  cases first.result context with
  | ok value => exact hStart.trans (hNext value _)
  | error error => exact hStart

theorem outcome {exact : Prop} {computation : Render σ α}
    (h : computation.Keeps exact) :
    computation.outcome.Keeps exact := by
  intro context
  rw [after_outcome]
  exact h context

/-- A scope shields everything outside it: what the body binds goes away with the
scope. -/
theorem within {body : Render σ α} (h : body.Keeps False) (exact : Prop) (limit : Nat)
    (scope : Scope) : (Render.within limit scope body).Keeps exact := by
  intro context
  rw [after_within]
  split
  · exact .refl exact context
  · have hInner := h (context.push scope)
    exact .of_scopes_eq exact hInner.outer hInner.overrides

end Keeps

/-! ## Primitives -/

/-- Looking at the context changes nothing. -/
private theorem keeps_of_after_eq (exact : Prop) {computation : Render σ α}
    (h : ∀ context, computation.after context = context) : computation.Keeps exact := by
  intro context
  rw [h context]
  exact .refl exact context

theorem keeps_pure (exact : Prop) (value : α) : (pure value : Render σ α).Keeps exact :=
  keeps_of_after_eq exact (after_pure value)

theorem keeps_throw (exact : Prop) (error : Error) :
    (throw error : Render σ α).Keeps exact :=
  keeps_of_after_eq exact (after_throw error)

theorem keeps_ofExcept (exact : Prop) (outcome : Except Error α) :
    (Render.ofExcept outcome : Render σ α).Keeps exact :=
  keeps_of_after_eq exact (after_ofExcept outcome)

theorem keeps_scopes (exact : Prop) : (Render.scopes : Render σ Scopes).Keeps exact :=
  keeps_of_after_eq exact after_scopes

private theorem keeps_ofSession (exact : Prop) (session : Session σ α) :
    (Render.ofSession session).Keeps exact := by
  intro context
  unfold after Render.ofSession
  cases session context.shelf <;> exact .of_scopes_eq exact rfl Iff.rfl

private theorem keeps_takeOverride (exact : Prop) (name : String) :
    (Render.takeOverride name : Render σ _).Keeps exact := by
  intro context
  rw [after_takeOverride]
  exact .of_scopes_eq exact rfl Option.map_eq_none_iff

/-- A binding changes the innermost scope, so the context is kept in the weaker
form only. -/
private theorem keeps_set (name : String) (value : Value) :
    (Render.set name value : Render σ Unit).Keeps False := by
  intro context
  rw [after_set]
  obtain ⟨scopes, overrides, shelf⟩ := context
  cases scopes with
  | nil => exact .refl False _
  | cons scope outer => exact ⟨False.elim, rfl, rfl, Iff.rfl⟩

/-! ## Lists of computations -/

private theorem keeps_joinTexts {exact : Prop} {pieces : List (Render σ String)}
    (h : ∀ piece ∈ pieces, piece.Keeps exact) (text : String) :
    (Render.joinTexts text pieces).Keeps exact := by
  induction pieces generalizing text with
  | nil => exact keeps_pure exact text
  | cons first rest ih =>
      have hFirst : first.Keeps exact := h first (by simp)
      have hRest : ∀ piece ∈ rest, piece.Keeps exact :=
        fun piece hPiece => h piece (by simp [hPiece])
      exact hFirst.bind fun more => ih hRest (text ++ more)

private theorem keeps_select {exact : Prop} {accept : α → Render σ Bool}
    (h : ∀ item, (accept item).Keeps exact) (accepted items : List α) :
    (Render.select accept accepted items).Keeps exact := by
  induction items generalizing accepted with
  | nil => exact keeps_pure exact _
  | cons item rest ih =>
      refine (h item).bind fun answer => ?_
      cases answer with
      | true => exact ih (item :: accepted)
      | false => exact ih accepted

end Render

namespace Environment

open Render

variable (env : Environment σ)

/-! ## Tags without a tree below them -/

private theorem keeps_resolve (exact : Prop) (operand : Operand) :
    (env.resolve operand).Keeps exact :=
  keeps_of_after_eq exact (env.after_resolve operand)

theorem keeps_test (exact : Prop) (condition : Option Condition) :
    (env.test condition).Keeps exact :=
  keeps_of_after_eq exact (env.after_test condition)

private theorem keeps_loadNamed (exact : Prop) (name : Variable) :
    (env.loadNamed name).Keeps exact := by
  refine (keeps_scopes exact).bind fun scopes => ?_
  split
  · exact keeps_ofSession exact _
  · exact keeps_throw exact _

/-! ## Tags with bodies -/

private theorem keeps_acceptedItems (exact : Prop) (names : List String)
    (condition : Option Condition) (items : List Value) :
    (env.acceptedItems names condition items).Keeps exact := by
  have hAccepts : ∀ item, (env.accepts names condition item).Keeps exact := by
    intro item
    refine (keeps_ofExcept exact _).bind fun scope => ?_
    exact (env.keeps_test False condition).within exact env.maxDepth scope
  cases condition with
  | none => exact keeps_pure exact items
  | some condition => exact keeps_select hAccepts [] items

private theorem keeps_renderItems (exact : Prop) (names : List String)
    (items : List Value) {body empty : Render σ String} (hBody : body.Keeps False)
    (hEmpty : empty.Keeps False) :
    (env.renderItems names items body empty).Keeps exact := by
  have hItem : ∀ item, (env.renderItem names items.length body item).Keeps exact := by
    intro item
    refine (keeps_ofExcept exact _).bind fun scope => ?_
    exact (hBody.within False env.maxDepth scope).within exact env.maxDepth _
  unfold renderItems
  split
  · exact hEmpty.within exact env.maxDepth Mapping.empty
  · refine keeps_joinTexts (fun piece hPiece => ?_) ""
    obtain ⟨item, -, rfl⟩ := List.mem_map.mp hPiece
    exact hItem item

private theorem keeps_renderLoop (exact : Prop) (names : List String) (source : Operand)
    (condition : Option Condition) {body empty : Render σ String}
    (hBody : body.Keeps False) (hEmpty : empty.Keeps False) :
    (env.renderLoop names source condition body empty).Keeps exact := by
  refine (env.keeps_resolve exact source).bind fun value => ?_
  refine (env.keeps_acceptedItems exact names condition _).bind fun items => ?_
  exact env.keeps_renderItems exact names items hBody hEmpty

private theorem keeps_renderFiltered {exact : Prop} (chain : FilterChain)
    {body : Render σ String} (h : body.Keeps exact) :
    (env.renderFiltered chain body).Keeps exact := by
  refine h.bind fun text => Keeps.within ?_ exact env.maxDepth _
  refine (keeps_scopes False).bind fun scopes => ?_
  exact (keeps_ofExcept False _).bind fun value => keeps_pure False _

/-! ## What leads out of the tree -/

/-- The text that a block replaces is rendered on the side: whatever it takes from the
blocks that wait is put back, also when it fails. -/
private theorem keeps_renderReplacement (exact : Prop) (replacement : Block Node)
    {body rendered : Render σ String} (hBody : body.Keeps exact)
    (hRendered : rendered.Keeps False) :
    (env.renderReplacement replacement body rendered).Keeps exact := by
  unfold renderReplacement
  split
  · intro context
    have hAside := hBody context
    have hRestored : context.Kept
        exact { body.after context with overrides := context.overrides } :=
      ⟨hAside.bindings, hAside.depth, hAside.outer, Iff.rfl⟩
    have hRest : ∀ text : Except Error String, Keeps exact
        (do env.within (superScope (← Render.ofExcept text)) rendered) := fun text =>
      (keeps_ofExcept exact text).bind fun _ => hRendered.within exact env.maxDepth _
    have hRun := hRestored.trans (hRest (body.result context) _)
    simpa using hRun
  · exact hRendered.within exact env.maxDepth Mapping.empty

/-- Blocks that wait while a body is rendered are taken away again unless others
waited before. -/
private theorem keeps_lending {exact : Prop} {body : Render σ String}
    (hBody : body.Keeps exact) (lend : Option Overrides → Overrides) :
    Keeps exact (do
      let before ← Render.overrides
      Render.setOverrides (some (lend before))
      let text ← body.outcome
      if before.isNone then Render.setOverrides none
      Render.ofExcept text) := by
  intro context
  have hLent := hBody { context with overrides := some (lend context.overrides) }
  cases hBefore : context.overrides with
  | none =>
      rw [hBefore] at hLent
      have hKept : context.Kept exact
          { body.after
            { context with overrides := some (lend none) } with overrides := none } :=
        ⟨hLent.bindings, hLent.depth, hLent.outer, by simp [hBefore]⟩
      simpa [hBefore] using hKept
  | some waiting =>
      rw [hBefore] at hLent
      have hKept : context.Kept exact
          (body.after { context with overrides := some (lend (some waiting)) }) :=
        ⟨hLent.bindings, hLent.depth,
          hLent.outer, by simpa [hBefore] using hLent.overrides⟩
      simpa [hBefore] using hKept

private theorem keeps_renderParent (exact : Prop) (parent : Variable)
    (blocks : List (String × Block Node)) {deeper : List Node → Render σ String}
    (h : ∀ nodes, (deeper nodes).Keeps False) :
    (env.renderParent parent blocks deeper).Keeps exact := by
  refine (env.keeps_loadNamed exact parent).bind fun template => ?_
  exact keeps_lending ((h template.nodes).within exact env.maxDepth Mapping.empty) _

private theorem keeps_renderEmbedded (exact : Prop) (name : Variable)
    (bindings : Option Variable) {deeper : List Node → Render σ String}
    (h : ∀ nodes, (deeper nodes).Keeps False) :
    (env.renderEmbedded name bindings deeper).Keeps exact := by
  refine (env.keeps_loadNamed exact name).bind fun template => ?_
  refine (keeps_of_after_eq exact (after_scopeOf bindings)).bind fun scope => ?_
  exact (h template.nodes).within exact env.maxDepth scope

/-! ## Trees -/

section Trees

-- The recursion hands the hypothesis on, which the linter does not see.
set_option linter.unusedSectionVars false

variable {env} {deeper : List Node → Render σ String}
  (h : ∀ nodes, (deeper nodes).Keeps False)

include h

mutual

/-- A node keeps the context exactly if no tag of the application's own stands in it. -/
private theorem keeps_renderNode (node : Node) :
    (env.renderNode deeper node).Keeps (BuiltIn node.parts) := by
  cases node with
  | text contents => exact keeps_pure _ contents
  | output operand =>
      exact (env.keeps_resolve _ operand).bind fun value => keeps_pure _ _
  | loop names source condition body empty =>
      have hBody := (keeps_renderNodes body).loosen
      have hEmpty := (keeps_renderNodes empty).loosen
      exact env.keeps_renderLoop _ names source condition hBody hEmpty
  | choice branches =>
      exact (keeps_renderBranches branches).mono fun _ => trivial
  | block block => exact keeps_renderBlock block
  | inherit parent blocks => exact env.keeps_renderParent _ parent blocks h
  | embed name bindings => exact env.keeps_renderEmbedded _ name bindings h
  | filtered chain body =>
      refine env.keeps_renderFiltered chain
        ((keeps_renderNodes body).mono fun hParts => ?_)
      rw [Node.parts, builtIn_cons] at hParts
      exact hParts.2
  | now format => exact keeps_of_after_eq _ (env.after_renderNow format)
  | custom action =>
      refine (keeps_renderAction action).mono fun hParts => ?_
      rw [Node.parts, builtIn_cons] at hParts
      exact Bool.noConfusion hParts.1

private theorem keeps_renderBlock (block : Block Node) :
    (env.renderBlock deeper block).Keeps (BuiltIn (Block.parts block)) := by
  obtain ⟨name, usesSuper, body⟩ := block
  have hBody : (env.renderNodes deeper body).Keeps
      (BuiltIn (Block.parts ⟨name, usesSuper, body⟩)) := by
    refine (keeps_renderNodes body).mono fun hParts => ?_
    rw [Block.parts, builtIn_cons] at hParts
    exact hParts.2
  refine (keeps_takeOverride _ name).bind fun replacement => ?_
  cases replacement with
  | none => exact hBody
  | some replacement => exact env.keeps_renderReplacement _ replacement hBody (h _)

theorem keeps_renderNodes (nodes : List Node) :
    (env.renderNodes deeper nodes).Keeps (BuiltIn (Node.partsOf nodes)) := by
  cases nodes with
  | nil => exact keeps_pure _ ""
  | cons node rest =>
      rw [Node.partsOf, builtIn_append]
      have hNode := (keeps_renderNode node).mono fun hParts :
        BuiltIn node.parts ∧ BuiltIn (Node.partsOf rest) => hParts.1
      have hRest := (keeps_renderNodes rest).mono fun hParts :
        BuiltIn node.parts ∧ BuiltIn (Node.partsOf rest) => hParts.2
      exact hNode.bind fun text => hRest.bind fun more => keeps_pure _ _

/-- Branches are rendered in scopes of their own, so nothing has to be asked of
their nodes. -/
private theorem keeps_renderBranches (branches : List (Branch Node)) :
    (env.renderBranches deeper branches).Keeps True := by
  cases branches with
  | nil => exact keeps_pure _ ""
  | cons branch rest =>
      obtain ⟨condition, body⟩ := branch
      refine (env.keeps_test _ condition).bind fun answer => ?_
      cases answer with
      | true =>
          exact (keeps_renderNodes body).loosen.within _ env.maxDepth Mapping.empty
      | false => exact keeps_renderBranches rest

theorem keeps_renderAction (action : Action) :
    (env.renderAction deeper action).Keeps False := by
  cases action with
  | done text => exact keeps_pure _ text
  | fail error => exact keeps_throw _ error
  | inspect next =>
      exact (keeps_scopes _).bind fun scopes => keeps_renderAction (next scopes)
  | set name value next =>
      exact (keeps_set name value).bind fun _ => keeps_renderAction next
  | within scope inner next =>
      have hInner := (keeps_renderAction inner).within False env.maxDepth scope
      exact hInner.outcome.bind fun outcome => keeps_renderAction (next outcome)
  | nodes body next =>
      have hBody := (keeps_renderNodes body).loosen
      exact hBody.outcome.bind fun outcome => keeps_renderAction (next outcome)

end

end Trees

/-! ## Whole renderings -/

/-- Every number of layers keeps the context, by induction on it: what leads out of the
tree is rendered with a layer less, and the lowest layer only fails. -/
theorem keeps_renderLayered (layers : Nat) (nodes : List Node) :
    (env.renderLayered layers nodes).Keeps (BuiltIn (Node.partsOf nodes)) := by
  induction layers generalizing nodes with
  | zero => exact keeps_renderNodes (fun _ => keeps_throw False _) nodes
  | succ layers ih => exact keeps_renderNodes (fun inner => (ih inner).loosen) nodes

theorem keeps_render (nodes : List Node) :
    (env.render nodes).Keeps (BuiltIn (Node.partsOf nodes)) :=
  env.keeps_renderLayered _ nodes

/-- A rendering gives the context back, whether it succeeds or fails: as many scopes are
open as before, those outside the innermost one bind what they bound, and blocks wait if
and only if blocks waited before. Without a tag of the application's own in the tree the
innermost scope is unchanged, too, whatever the templates and blocks contain that are
found on the way. -/
theorem render_keeps_context (nodes : List Node) (context : Context σ) :
    let left := (env.render nodes).after context
    (BuiltIn (Node.partsOf nodes) → left.scopes = context.scopes) ∧
      left.scopes.length = context.scopes.length ∧
      left.scopes.tail = context.scopes.tail ∧
      (left.overrides = none ↔ context.overrides = none) := by
  intro left
  have hKept := env.keeps_render nodes context
  exact ⟨hKept.bindings, hKept.depth, hKept.outer, hKept.overrides⟩

/-- A block whose own text fails, since the parent that it names inside a filtered
region cannot be found, leaves two scopes as they were. -/
theorem render_keeps_context_of_missing_parent :
    let env : Environment Unit := { clock := ⟨2024, 2, 29, 12, 0, 0, 0, 0⟩ }
    let region : Node := .filtered ⟨"", Variable.ofString "x", []⟩
      [.inherit (Variable.ofString "'base'") []]
    let nodes : List Node := [.block ⟨"title", true, [region]⟩]
    let context : Context Unit :=
      ⟨[Mapping.singleton "x" (.bool true), Mapping.empty], none, ⟨Mapping.empty, ()⟩⟩
    BuiltIn (Node.partsOf nodes) ∧
      ((env.render nodes).after context).scopes = context.scopes := by
  intro env region nodes context
  have hParts : BuiltIn (Node.partsOf nodes) := by
    simp [nodes, region, BuiltIn, Node.partsOf, Node.parts, Block.parts, Block.partsOf,
      Node.isCustom]
  exact ⟨hParts, (env.render_keeps_context nodes context).1 hParts⟩

end Environment

end TextTemplate
