import TextTemplate.Proofs.Condition.RangeLimit
import TextTemplate.Proofs.Coupling.Basic
import TextTemplate.Proofs.Inheritance.FilledTree

/-!
# Trees side by side

Two environments that load alike render a tree in step. The induction over trees is done
once, for every coupling: `Alongside` collects what a coupling has to satisfy, tag by
tag, and which nodes are asked about is left open. So a coupling in which the two runs
may not both meet an application's own tag, or the current time, or a parent, simply has
no such node among those that fit. How blocks are kept in step is left to the coupling;
for most of them the same blocks wait on either side, which is what `Tandem` adds.

What leads out of the tree, a template that is loaded or a block that waited, is
rendered a layer below. The nodes found there have to be ready, which may be more than
that they fit: a coupling can also know by other means that they are rendered in step.

## Main definitions

* `Alongside`, `Tandem` — what makes two environments render fitting nodes in step.

## Main results

* `Alongside.inStep_renderNodes` — the induction over trees, for whatever leads out of
  the tree.
* `Tandem.inStep_render` — whole renderings, where all that is ready is built from
  fitting nodes.
-/

namespace TextTemplate

variable {σ α β : Type}

/-- The operand with the name of the template that a node leads to. -/
def Node.template? : Node → Option Variable
  | .inherit parent _ => some parent
  | .embed name _ => some name
  | _ => none

/-- A tag of the application's own may render some nodes, given the scopes and outcomes
that it meets. -/
inductive Action.Renders : Action → List Node → Prop where
  | nodes {body : List Node} {next : Except Error String → Action} :
      Renders (.nodes body next) body
  | afterNodes {body inner : List Node} {next : Except Error String → Action}
      {outcome : Except Error String} (h : Renders (next outcome) inner) :
        Renders (.nodes body next) inner
  | inspect {inner : List Node} {next : Scopes → Action} {scopes : Scopes}
      (h : Renders (next scopes) inner) : Renders (.inspect next) inner
  | set {inner : List Node} {name : String} {value : Value} {next : Action}
      (h : Renders next inner) : Renders (.set name value next) inner
  | within {inner : List Node} {scope : Scope} {action : Action}
      {next : Except Error String → Action}
      (h : Renders action inner) : Renders (.within scope action next) inner
  | afterWithin {inner : List Node} {scope : Scope} {action : Action}
      {next : Except Error String → Action} {outcome : Except Error String}
      (h : Renders (next outcome) inner) : Renders (.within scope action next) inner

namespace Environment

open Render

variable (env : Environment σ)

/-! ## Computations that begin with the scopes -/

theorem result_loadNamed (operand : Variable) (context : Context σ) :
    (env.loadNamed operand).result context =
      match operand.resolve context.scopes with
      | .string text => (env.load text).result context.shelf
      | _ => .error (.fault (.nameNotText operand.source)) := by
  simp only [loadNamed, result_bind, result_scopes, after_scopes]
  cases operand.resolve context.scopes with
  | string text => exact result_ofSession _ _
  | _ => rfl

/-- Only the shelf is changed where an operand gives a name. -/
theorem after_loadNamed {operand : Variable} {context : Context σ} {name : String}
    (h : operand.resolve context.scopes = .string name) :
    (env.loadNamed operand).after context =
      { context with shelf := (env.load name).after context.shelf } := by
  simp only [loadNamed, after_bind, result_scopes, after_scopes, h]
  exact after_ofSession _ _

/-- What is loaded by an operand is loaded by the name that it gives. -/
theorem load_of_loadNamed {env : Environment σ} {operand : Variable}
    {context : Context σ} {template : Template}
    (h : (env.loadNamed operand).result context = .ok template) :
    ∃ name, operand.resolve context.scopes = .string name ∧
      (env.load name).result context.shelf = .ok template := by
  rw [result_loadNamed] at h
  split at h
  · rename_i name hName
    exact ⟨name, hName, h⟩
  · cases h

/-- A parent is loaded, and then its nodes are rendered while further blocks wait. -/
theorem renderParent_eq_lending (parent : Variable)
    (blocks : List (String × Block Node)) (deeper : List Node → Render σ String) :
    env.renderParent parent blocks deeper = (do
      let template ← env.loadNamed parent
      lending (fun before => (before.getD Mapping.empty).merge blocks)
        (env.within Mapping.empty (deeper template.nodes))) := rfl

end Environment

namespace Coupling

/-- Nothing about the first rendering differs that an application's own tag could see:
the scopes are the same, and every failure belongs together with the same failure. -/
structure Exact (coupling : Coupling σ) : Prop where
  lasting : coupling.lasting
  strict : ∀ error, ¬ coupling.excused error
  scopes : ∀ first second, coupling.scopes first second ↔ first = second

end Coupling

/-- Two environments that render fitting nodes in step, if what leads out of a tree is
ready and blocks are in step. -/
structure Alongside (coupling : Coupling σ) (env env' : Environment σ)
    (fits : Node → Prop) (ready : List Node → Prop) : Prop where
  opens : coupling.Opens env.maxDepth env'.maxDepth
  alike {first second : Scopes} (h : coupling.scopes first second) : first.Alike second
  range : env'.maxRange = env.maxRange ∨ env.maxRange ≤ env'.maxRange ∧
    ∀ lower upper, coupling.excused (.rangeTooLarge lower upper env.maxRange)
  /-- Blocks are lent to a parent on either side. -/
  lend {parent : Variable} {blocks : List (String × Block Node)}
    (hFits : fits (.inherit parent blocks))
    {first second : Option Overrides} (h : coupling.overrides first second) :
    coupling.overrides (some ((first.getD Mapping.empty).merge blocks))
      (some ((second.getD Mapping.empty).merge blocks)) ∧ first.isNone = second.isNone
  load (name : String) {first second : Shelf σ} (h : coupling.shelves first second) :
    coupling.Matches ((env.load name).result first) ((env'.load name).result second)
      (coupling.shelves ((env.load name).after first) ((env'.load name).after second))
  loaded {node : Node} (hFits : fits node) {operand : Variable}
    (hOperand : node.template? = some operand)
    {scopes : Scopes} {name : String} (hName : operand.resolve scopes = .string name)
    {first second : Shelf σ} (h : coupling.shelves first second) {template : Template}
    (hLoad : (env.load name).result first = .ok template) : ready template.nodes
  clock {format : Option Variable} (hFits : fits (.now format)) : env'.clock = env.clock
  custom {action : Action} (hFits : fits (.custom action)) :
    coupling.Exact ∧ ∀ body, action.Renders body → Node.All fits body

/-- Two environments that render fitting nodes in step, if what leads out of a tree is
ready: the same blocks wait on either side. -/
structure Tandem (coupling : Coupling σ) (env env' : Environment σ) (fits : Node → Prop)
    (ready : List Node → Prop) :
    Prop extends Alongside coupling env env' fits ready where
  /-- The same block waits for a name on either side. -/
  waiting {first second : Option Overrides} (h : coupling.overrides first second)
    (name : String) :
    (first.bind fun waiting => waiting.get? name) =
      second.bind fun waiting => waiting.get? name
  erase {block : Block Node} (hFits : fits (.block block)) {first second :
    Option Overrides} (h : coupling.overrides first second) :
    coupling.overrides (first.map fun waiting => waiting.erase block.name)
      (second.map fun waiting => waiting.erase block.name)
  waits {block replacement : Block Node} (hFits : fits (.block block)) {first second :
    Option Overrides} (h : coupling.overrides first second)
    (hWaits : (first.bind fun waiting => waiting.get? block.name) = some replacement) :
    ready [.block replacement]

namespace Coupling.InStep

variable {coupling : Coupling σ}

open Render

/-- Something is read off the scopes that is the same on either side. -/
theorem look {γ : Type} (view : Scopes → γ) (next next' : γ → Render σ α)
    (hView : ∀ first second, coupling.scopes first second → view first = view second)
    (hNext : ∀ value, coupling.InStep (next value) (next' value)) :
    coupling.InStep (Render.scopes >>= fun scopes => next (view scopes))
      (Render.scopes >>= fun scopes => next' (view scopes)) := by
  intro context other hJoins
  simp only [result_bind, after_bind, result_scopes, after_scopes]
  rw [hView _ _ hJoins.scopes]
  exact hNext _ context other hJoins

theorem set (hExact : coupling.Exact) (name : String) (value : Value) :
    coupling.InStep (Render.set name value : Render σ Unit)
      (Render.set name value) := by
  intro context other hJoins
  rw [result_set, after_set, result_set, after_set]
  have hScopes := (hExact.scopes _ _).mp hJoins.scopes
  have hSet :=
    (hExact.scopes (context.scopes.set name value) (other.scopes.set name value)).mpr
    (by rw [hScopes])
  exact ⟨rfl, hSet, hJoins.overrides, hJoins.shelves⟩

end Coupling.InStep

namespace Alongside

open Render Coupling Environment

variable {coupling : Coupling σ} {env env' : Environment σ} {fits : Node → Prop}
  {ready : List Node → Prop} (alongside : Alongside coupling env env' fits ready)

include alongside

/-! ## Tags without a tree below them -/

/-- Outcomes under two limits on ranges. -/
theorem matches_of_upTo {first second : Except Error α}
    (hSame : env'.maxRange = env.maxRange → second = first)
    (hUpTo : env.maxRange ≤ env'.maxRange → UpToRanges env.maxRange first second) :
    coupling.Matches first second True := by
  rcases alongside.range with hRange | ⟨hRange, hExcused⟩
  · exact .of_eq (hSame hRange) trivial
  · rcases hUpTo hRange with hEq | ⟨lower, upper, hError⟩
    · exact .of_eq hEq trivial
    · rw [hError]
      exact .inl (hExcused lower upper)

theorem inStep_resolve (operand : Operand) :
    coupling.InStep (env.resolve operand) (env'.resolve operand) :=
  .observe (env.after_resolve operand) (env'.after_resolve operand)
    fun context other hJoins => by
    rw [result_resolve, result_resolve,
      ← operand.resolve_eq_of_alike (alongside.alike hJoins.scopes)]
    exact alongside.matches_of_upTo (fun hRange => by rw [hRange])
      fun hRange => operand.resolve_upTo hRange _

theorem inStep_test (condition : Option Condition) :
    coupling.InStep (env.test condition) (env'.test condition) :=
  .observe (env.after_test condition) (env'.after_test condition)
    fun context other hJoins => by
    rw [result_test, result_test]
    cases condition with
    | none => exact .of_eq rfl trivial
    | some condition =>
        show coupling.Matches (condition.evaluate _ _) (condition.evaluate _ _) True
        rw [← condition.evaluate_eq_of_alike (alongside.alike hJoins.scopes)]
        exact alongside.matches_of_upTo (fun hRange => by rw [hRange])
          fun hRange => condition.evaluate_upTo hRange _

theorem inStep_loadNamed (operand : Variable) :
    coupling.InStep (env.loadNamed operand) (env'.loadNamed operand) := by
  refine InStep.look operand.resolve
    (fun value => match value with
      | .string text => Render.ofSession (env.load text)
      | _ => throw (.fault (.nameNotText operand.source)))
    (fun value => match value with
      | .string text => Render.ofSession (env'.load text)
      | _ => throw (.fault (.nameNotText operand.source)))
    (fun _ _ hScopes => operand.resolve_eq_of_alike (alongside.alike hScopes))
    fun value => ?_
  cases value with
  | string text => exact .ofSession fun _ _ hShelves => alongside.load text hShelves
  | _ => exact .throw _

theorem inStep_scopeOf (bindings : Option Variable) :
    coupling.InStep (scopeOf bindings : Render σ Scope) (scopeOf bindings) := by
  cases bindings with
  | none => exact .pure _
  | some bindings =>
      exact InStep.look bindings.resolve
        (fun value => pure (value.asMapping?.getD Mapping.empty))
        (fun value => pure (value.asMapping?.getD Mapping.empty))
        (fun _ _ hScopes => bindings.resolve_eq_of_alike (alongside.alike hScopes))
        fun value => .pure _

theorem inStep_renderNow {format : Option Variable} (hClock : env'.clock = env.clock) :
    coupling.InStep (env.renderNow format) (env'.renderNow format) := by
  have hPrint : ∀ text, coupling.InStep (env.printTime text : Render σ String)
      (env'.printTime text) := by
    intro text
    unfold printTime
    rw [hClock]
    split
    · exact .pure _
    · exact .throw _
  cases format with
  | none => exact hPrint standardTimeFormat
  | some format =>
      refine InStep.look format.resolve
        (fun value => match value with
          | .string text => env.printTime text
          | _ => pure "")
        (fun value => match value with
          | .string text => env'.printTime text
          | _ => pure "")
        (fun _ _ hScopes => format.resolve_eq_of_alike (alongside.alike hScopes))
        fun value => ?_
      cases value with
      | string text => exact hPrint text
      | _ => exact .pure ""

theorem inStep_acceptedItems (names : List String) (condition : Option Condition)
    (items : List Value) :
    coupling.InStep (env.acceptedItems names condition items)
      (env'.acceptedItems names condition items) := by
  cases condition with
  | none => exact .pure items
  | some condition =>
      refine .select (fun item => ?_) [] items
      refine (InStep.ofExcept _).bind fun scope => ?_
      exact (alongside.inStep_test _).within alongside.opens (env.keeps_test _ _)
        (env'.keeps_test _ _) scope

/-! ## Tags with bodies -/

theorem inStep_renderLoop (names : List String) (source : Operand)
    (condition : Option Condition) {body body' empty empty' : Render σ String}
    (hBody : coupling.InStep body body') (hEmpty : coupling.InStep empty empty')
    (hKeepsBody : body.Keeps False) (hKeepsBody' : body'.Keeps False)
    (hKeepsEmpty : empty.Keeps False) (hKeepsEmpty' : empty'.Keeps False) :
    coupling.InStep (env.renderLoop names source condition body empty)
      (env'.renderLoop names source condition body' empty') := by
  refine (alongside.inStep_resolve source).bind fun value => ?_
  refine (alongside.inStep_acceptedItems names condition _).bind fun items => ?_
  unfold renderItems
  split
  · exact hEmpty.within alongside.opens hKeepsEmpty hKeepsEmpty' Mapping.empty
  · refine .joinTexts (fun item => ?_) items.zipIdx ""
    refine (InStep.ofExcept _).bind fun scope => ?_
    have hItem := hBody.within alongside.opens hKeepsBody hKeepsBody' scope
    exact hItem.within alongside.opens (hKeepsBody.within _ _ scope)
      (hKeepsBody'.within _ _ scope) _

theorem inStep_renderFiltered (chain : FilterChain) {body body' : Render σ String}
    (h : coupling.InStep body body') :
    coupling.InStep (env.renderFiltered chain body)
      (env'.renderFiltered chain body') := by
  -- The chain sees the region as a variable in a scope of its own.
  let filtered : Render σ String := do
    return (← Render.ofExcept (chain.resolve (← Render.scopes))).print
  have hFiltered : coupling.InStep filtered filtered :=
    InStep.look chain.resolve
      (fun outcome => do return (← Render.ofExcept outcome).print)
      (fun outcome => do return (← Render.ofExcept outcome).print)
      (fun _ _ hScopes => chain.resolve_eq_of_alike (alongside.alike hScopes))
      fun outcome => (InStep.ofExcept outcome).bind fun value => .pure _
  have hKeeps : filtered.Keeps False :=
    (keeps_scopes False).bind fun scopes => (keeps_ofExcept False _).bind
      fun value => keeps_pure False _
  exact h.bind fun text => hFiltered.within alongside.opens hKeeps hKeeps _

theorem inStep_renderReplacement (replacement : Block Node)
    {body body' rendered rendered' : Render σ String}
    (hBody : coupling.InStep body body')
    (hRendered : coupling.InStep rendered rendered') (hKeeps : rendered.Keeps False)
    (hKeeps' : rendered'.Keeps False) :
    coupling.InStep (env.renderReplacement replacement body rendered)
      (env'.renderReplacement replacement body' rendered') := by
  cases hSuper : replacement.usesSuper with
  | true =>
      rw [env.renderReplacement_of_usesSuper hSuper,
        env'.renderReplacement_of_usesSuper hSuper]
      exact hBody.aside.bind fun text => hRendered.within alongside.opens
        hKeeps hKeeps' _
  | false =>
      have hNot : ¬ replacement.usesSuper = true := by
        rw [hSuper]; exact Bool.noConfusion
      rw [renderReplacement, if_neg hNot, renderReplacement, if_neg hNot]
      exact hRendered.within alongside.opens hKeeps hKeeps' _

/-! ## What leads out of the tree -/

/-- A template that is loaded by a fitting node is ready. -/
theorem inStep_loaded {node : Node} (hFits : fits node) {operand : Variable}
    (hOperand : node.template? = some operand) {next next' : Template → Render σ α}
    (hNext : ∀ template, ready template.nodes →
      coupling.InStep (next template) (next' template)) :
    coupling.InStep (env.loadNamed operand >>= next) (env'.loadNamed operand >>=
      next') := by
  refine (alongside.inStep_loadNamed operand).bind_of
    (fun template => ready template.nodes)
    (fun context other hJoins template hLoaded => ?_) hNext
  obtain ⟨name, hName, hLoad⟩ := load_of_loadNamed hLoaded
  exact alongside.loaded hFits hOperand hName hJoins.shelves hLoad

section Deeper

variable {deeper deeper' : List Node → Render σ String}
  (h : ∀ nodes, ready nodes → coupling.InStep (deeper nodes) (deeper' nodes))
  (hKeeps : ∀ nodes, (deeper nodes).Keeps False) (hKeeps' : ∀ nodes,
    (deeper' nodes).Keeps False)

include h hKeeps hKeeps'

theorem inStep_renderParent {parent : Variable} {blocks : List (String × Block Node)}
    (hFits : fits (.inherit parent blocks)) :
    coupling.InStep (env.renderParent parent blocks deeper)
      (env'.renderParent parent blocks deeper') := by
  rw [renderParent_eq_lending, renderParent_eq_lending]
  refine alongside.inStep_loaded hFits rfl fun template hReady => ?_
  refine .lending (fun _ _ hOverrides => alongside.lend hFits hOverrides) ?_
  exact (h _ hReady).within alongside.opens (hKeeps _) (hKeeps' _) Mapping.empty

theorem inStep_renderEmbedded {name : Variable} {bindings : Option Variable}
    (hFits : fits (.embed name bindings)) :
    coupling.InStep (env.renderEmbedded name bindings deeper)
      (env'.renderEmbedded name bindings deeper') := by
  refine alongside.inStep_loaded hFits rfl fun template hReady => ?_
  refine (alongside.inStep_scopeOf bindings).bind fun scope => ?_
  exact (h _ hReady).within alongside.opens (hKeeps _) (hKeeps' _) scope

/-- A block is in step in two contexts in which the same block waits for its name. -/
theorem matches_renderBlock {block : Block Node}
    (hBody : coupling.InStep (env.renderNodes deeper block.body)
      (env'.renderNodes deeper' block.body)) {context other : Context σ}
    (hSame : context.waiting? block.name = other.waiting? block.name)
    (hTook : coupling.Joins (context.took block.name) (other.took block.name))
    (hReady : ∀ replacement, context.waiting? block.name = some replacement →
      ready [.block replacement]) :
    coupling.Matches ((env.renderBlock deeper block).result context)
      ((env'.renderBlock deeper' block).result other)
      (coupling.Joins ((env.renderBlock deeper block).after context)
        ((env'.renderBlock deeper' block).after other)) := by
  obtain ⟨name, usesSuper, body⟩ := block
  simp only [renderBlock, result_bind, after_bind, result_takeOverride,
    after_takeOverride]
  rw [← hSame]
  cases hWaits : context.waiting? name with
  | none => exact hBody _ _ hTook
  | some replacement =>
      exact alongside.inStep_renderReplacement replacement hBody
        (h _ (hReady replacement hWaits)) (hKeeps _) (hKeeps' _) _ _ hTook

/-! ## Trees -/

section Blocks

variable (hBlock : ∀ block : Block Node, (∀ part ∈ Block.parts block, fits part) →
  coupling.InStep (env.renderNodes deeper block.body)
    (env'.renderNodes deeper' block.body) →
    coupling.InStep (env.renderBlock deeper block) (env'.renderBlock deeper' block))

include hBlock

-- The recursion hands the hypotheses on, which the linter does not see.
set_option linter.unusedSectionVars false

mutual

theorem inStep_renderNode (node : Node) (hFits : ∀ part ∈ node.parts, fits part) :
    coupling.InStep (env.renderNode deeper node) (env'.renderNode deeper' node) := by
  cases node with
  | text contents => exact .pure contents
  | output operand => exact (alongside.inStep_resolve operand).bind fun value => .pure _
  | loop names source condition body empty =>
      have hInner := (List.forall_mem_cons.mp hFits).2
      have hBody := inStep_renderNodes body fun part hPart =>
        hInner part (List.mem_append_left _ hPart)
      have hEmpty := inStep_renderNodes empty fun part hPart =>
        hInner part (List.mem_append_right _ hPart)
      exact alongside.inStep_renderLoop names source condition hBody hEmpty
        (keeps_renderNodes hKeeps body).loosen (keeps_renderNodes hKeeps' body).loosen
        (keeps_renderNodes hKeeps empty).loosen (keeps_renderNodes hKeeps' empty).loosen
  | choice branches =>
      exact inStep_renderBranches branches (List.forall_mem_cons.mp hFits).2
  | block block =>
      obtain ⟨name, usesSuper, body⟩ := block
      exact hBlock ⟨name, usesSuper,
        body⟩ hFits (inStep_renderNodes body (List.forall_mem_cons.mp hFits).2)
  | inherit parent blocks =>
      exact alongside.inStep_renderParent h hKeeps hKeeps' (hFits _ List.mem_cons_self)
  | embed name bindings =>
      exact alongside.inStep_renderEmbedded h hKeeps hKeeps'
        (hFits _ List.mem_cons_self)
  | filtered chain body =>
      exact alongside.inStep_renderFiltered chain
        (inStep_renderNodes body (List.forall_mem_cons.mp hFits).2)
  | now format =>
      exact alongside.inStep_renderNow (alongside.clock (hFits _ List.mem_cons_self))
  | custom action =>
      obtain ⟨hExact, hAll⟩ := alongside.custom (hFits _ List.mem_cons_self)
      exact inStep_renderAction hExact action hAll

theorem inStep_renderNodes (nodes : List Node) (hFits : Node.All fits nodes) :
    coupling.InStep (env.renderNodes deeper nodes)
      (env'.renderNodes deeper' nodes) := by
  cases nodes with
  | nil => exact .pure ""
  | cons node rest =>
      have hNode := inStep_renderNode node fun part hPart =>
        hFits part (List.mem_append_left _ hPart)
      have hRest := inStep_renderNodes rest fun part hPart =>
        hFits part (List.mem_append_right _ hPart)
      exact hNode.bind fun text => hRest.bind fun more => .pure _

theorem inStep_renderBranches (branches : List (Branch Node))
    (hFits : ∀ part ∈ Branch.partsOf branches, fits part) :
    coupling.InStep (env.renderBranches deeper branches)
      (env'.renderBranches deeper' branches) := by
  cases branches with
  | nil => exact .pure ""
  | cons branch rest =>
      obtain ⟨condition, body⟩ := branch
      have hBody := inStep_renderNodes body fun part hPart =>
        hFits part (List.mem_append_left _ hPart)
      have hRest := inStep_renderBranches rest fun part hPart =>
        hFits part (List.mem_append_right _ hPart)
      refine (alongside.inStep_test condition).bind fun answer => ?_
      cases answer with
      | true =>
          exact hBody.within alongside.opens (keeps_renderNodes hKeeps body).loosen
            (keeps_renderNodes hKeeps' body).loosen Mapping.empty
      | false => exact hRest

theorem inStep_renderAction (hExact : coupling.Exact) (action : Action)
    (hFits : ∀ body, action.Renders body → Node.All fits body) :
    coupling.InStep (env.renderAction deeper action)
      (env'.renderAction deeper' action) := by
  cases action with
  | done text => exact .pure text
  | fail error => exact .throw error
  | inspect next =>
      exact InStep.look id _ _ (fun _ _ hScopes => (hExact.scopes _ _).mp hScopes)
        fun scopes => inStep_renderAction hExact (next scopes)
        fun body h => hFits body (.inspect h)
  | set name value next =>
      exact (InStep.set hExact name value).bind fun _ =>
        inStep_renderAction hExact next fun body h => hFits body (.set h)
  | within scope inner next =>
      have hInner :=
        (inStep_renderAction hExact inner fun body h => hFits body (.within h)).within
        alongside.opens (keeps_renderAction hKeeps inner)
          (keeps_renderAction hKeeps' inner) scope
      exact (hInner.outcome hExact.lasting hExact.strict).bind fun outcome =>
        inStep_renderAction hExact (next outcome)
          fun body h => hFits body (.afterWithin h)
  | nodes body next =>
      have hBody := inStep_renderNodes body (hFits body .nodes)
      exact (hBody.outcome hExact.lasting hExact.strict).bind fun outcome =>
        inStep_renderAction hExact (next outcome)
          fun body h => hFits body (.afterNodes h)

end

end Blocks

end Deeper

end Alongside

namespace Tandem

open Render Coupling Environment

/-- Blocks of nodes that fit are in step, and so are the nodes. -/
theorem inStep_renderNodes {coupling : Coupling σ} {env env' : Environment σ}
    {fits : Node → Prop} {ready : List Node → Prop}
    (tandem : Tandem coupling env env' fits ready)
    {deeper deeper' : List Node → Render σ String}
    (h : ∀ nodes, ready nodes → coupling.InStep (deeper nodes) (deeper' nodes))
    (hKeeps : ∀ nodes, (deeper nodes).Keeps False)
    (hKeeps' : ∀ nodes, (deeper' nodes).Keeps False) (nodes : List Node)
    (hFits : Node.All fits nodes) :
    coupling.InStep (env.renderNodes deeper nodes)
      (env'.renderNodes deeper' nodes) := by
  refine tandem.toAlongside.inStep_renderNodes h hKeeps hKeeps'
    (fun block hParts hBody => ?_) nodes hFits
  obtain ⟨name, usesSuper, body⟩ := block
  have hSelf := (List.forall_mem_cons.mp hParts).1
  intro context other hJoins
  exact tandem.toAlongside.matches_renderBlock h hKeeps hKeeps' hBody
    (tandem.waiting hJoins.overrides name)
    ⟨hJoins.scopes, tandem.erase hSelf hJoins.overrides, hJoins.shelves⟩
    fun replacement hWaits => tandem.waits hSelf hJoins.overrides hWaits

end Tandem

/-! ## Whole renderings -/

namespace Tandem

open Render Coupling Environment

variable {coupling : Coupling σ} {env env' : Environment σ} {fits : Node → Prop}

/-- Layers are in step, by induction on their number. The second rendering may have
layers more if it is excused that the first one runs out of them. -/
theorem inStep_renderLayered (tandem : Tandem coupling env env' fits (Node.All fits))
    (more : Nat)
    (hLowest : more = 0 ∧ env'.maxDepth = env.maxDepth ∨
      coupling.excused (.tooDeep env.maxDepth)) (layers : Nat) (nodes : List Node)
    (hFits : Node.All fits nodes) :
    coupling.InStep (env.renderLayered layers nodes)
      (env'.renderLayered (layers + more) nodes) := by
  induction layers generalizing nodes with
  | zero =>
      have hKeeps : ∀ inner : List Node,
          Keeps False (throw (.tooDeep env.maxDepth) : Render σ String) :=
        fun _ => keeps_throw False _
      rcases hLowest with ⟨rfl, hDepth⟩ | hExcused
      · refine tandem.inStep_renderNodes (fun _ _ => ?_) hKeeps
          (fun _ => keeps_throw False _) nodes hFits
        rw [hDepth]
        exact .throw _
      · cases more with
        | zero =>
            exact tandem.inStep_renderNodes (fun _ _ => .excuse hExcused _) hKeeps
              (fun _ => keeps_throw False _) nodes hFits
        | succ more =>
            rw [Nat.zero_add]
            exact tandem.inStep_renderNodes (fun _ _ => .excuse hExcused _) hKeeps
              (fun inner => (env'.keeps_renderLayered more inner).loosen) nodes hFits
  | succ layers ih =>
      rw [Nat.succ_add]
      exact tandem.inStep_renderNodes ih
        (fun inner => (env.keeps_renderLayered layers inner).loosen)
        (fun inner => (env'.keeps_renderLayered (layers + more) inner).loosen) nodes
        hFits

theorem inStep_render (tandem : Tandem coupling env env' fits (Node.All fits))
    (hDepth : env'.maxDepth = env.maxDepth ∨
      env.maxDepth ≤ env'.maxDepth ∧ coupling.excused (.tooDeep env.maxDepth))
    {nodes : List Node} (hFits : Node.All fits nodes) :
    coupling.InStep (env.render nodes) (env'.render nodes) := by
  rcases hDepth with hSame | ⟨hLess, hExcused⟩
  · unfold render
    rw [hSame]
    exact tandem.inStep_renderLayered 0 (.inl ⟨rfl, hSame⟩)
      (env.maxDepth + 1) nodes hFits
  · have hLayers := tandem.inStep_renderLayered (env'.maxDepth - env.maxDepth)
      (.inr hExcused) (env.maxDepth + 1) nodes hFits
    have hSum : env.maxDepth + 1 + (env'.maxDepth - env.maxDepth) =
        env'.maxDepth + 1 := by omega
    rwa [hSum] at hLayers

end Tandem

end TextTemplate
