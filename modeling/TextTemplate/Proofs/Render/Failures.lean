import Mathlib
import TextTemplate.Proofs.Coupling.Reach
import TextTemplate.Proofs.Parsing.Checked
import TextTemplate.Proofs.Parsing.Extending

/-!
# How renderings fail

A template that leads to no other one, neither as its parent nor by including it, fails
for three reasons only: for a fault, which may be one that a filter reports, and for the
two limits on the depth of scopes and on the length of ranges. All filters have been
found when the template was parsed, so nothing is looked up by name while it is rendered
but what the scopes bind, and a name that they do not bind is no error.

What has to be known of a filter is that it reports faults and nothing else. What has to
be known of the context is that the blocks that wait in it are as self-contained as the
template, as far as they wait for a name that is reached, since such a block is rendered
in place of one of the template. A block that includes a template which does not load is
enough to make the template fail for it. The condition is preserved: blocks are taken,
and no others are lent where no parent is loaded. So each computation is described by
what it gives, by how it fails and by the blocks that go on to wait.

## Main definitions

* `Filter.FailsPlainly`, `Node.SelfContained`, `Overrides.SelfContained` — what is asked
  of filters, nodes and waiting blocks.
* `Environment.Foreseen` — the failures that are left.

## Main results

* `Environment.fares_renderNodes` — the induction over trees, for whatever leads out of
  the tree.
* `Environment.failures_of_parse` — how parsing and rendering fail with the standard
  tags and filters.
* `Environment.not_foreseen_of_stray_block` — another failure, because of a block
  that waits.
-/

namespace TextTemplate

variable {σ α β : Type}

/-! ## Filters -/

/-- The outcome is a value or a fault. -/
abbrev FaultsOnly (outcome : Except Error α) : Prop :=
  EndsIn (fun error => ∃ fault, error = .fault fault) (fun _ => True) outcome

namespace Filter

/-- The filter gives a value or reports a fault. -/
def FailsPlainly (filter : Filter) : Prop :=
  ∀ value arguments, FaultsOnly (filter.invoke value arguments)

/-- An argument for a filter that takes none is a fault. -/
private theorem failsPlainly_plain {apply : Value → Except Error Value}
    (h : ∀ value, FaultsOnly (apply value)) :
    (plain apply).FailsPlainly := by
  intro value arguments
  show FaultsOnly (if arguments.isEmpty then apply value else _)
  split
  · exact h value
  · exact ⟨_, rfl⟩

private theorem faultsOnly_separatorOf (filter standard : String)
    (arguments : List Value) :
    FaultsOnly (separatorOf filter standard arguments) := by
  unfold separatorOf
  split <;> first | trivial | exact ⟨_, rfl⟩

private theorem faultsOnly_indentWidth (argument : Option Value) :
    FaultsOnly (indentWidth argument) := by
  unfold indentWidth
  split <;> first | trivial | exact ⟨_, rfl⟩

private theorem faultsOnly_indentUnit (argument : Option Value) :
    FaultsOnly (indentUnit argument) := by
  unfold indentUnit
  split <;> first | trivial | exact ⟨_, rfl⟩

private theorem faultsOnly_indentFirst (argument : Option Value) :
    FaultsOnly (indentFirst argument) := by
  unfold indentFirst
  split <;> first | trivial | exact ⟨_, rfl⟩

private theorem failsPlainly_join : (withArguments join).FailsPlainly := by
  intro value arguments
  refine (faultsOnly_separatorOf "join" "" arguments).bind fun separator _ => ?_
  split <;> trivial

private theorem failsPlainly_split : (withArguments split).FailsPlainly := by
  intro value arguments
  refine (faultsOnly_separatorOf "split" " " arguments).bind fun separator _ => ?_
  split
  · split <;> trivial
  · trivial

private theorem failsPlainly_indent : (withArguments indent).FailsPlainly := by
  intro value arguments
  show FaultsOnly (indent value arguments)
  unfold indent
  split
  · exact ⟨_, rfl⟩
  · refine (faultsOnly_indentWidth _).bind fun width _ => ?_
    refine (faultsOnly_indentUnit _).bind fun unit _ => ?_
    exact (faultsOnly_indentFirst _).bind fun first _ => trivial

/-- The standard filters report faults and nothing else. -/
private theorem failsPlainly_of_standard {name : String} {filter : Filter}
    (hMem : (name, filter) ∈ standard) :
    filter.FailsPlainly := by
  simp only [standard, List.mem_cons, Prod.mk.injEq, List.not_mem_nil, or_false] at hMem
  obtain ⟨-, rfl⟩ | ⟨-, rfl⟩ | ⟨-, rfl⟩ | ⟨-, rfl⟩ | ⟨-, rfl⟩ | ⟨-, rfl⟩ | ⟨-, rfl⟩ :=
    hMem
  · exact fun value arguments => trivial
  · exact failsPlainly_plain fun value => trivial
  · exact failsPlainly_plain fun value => trivial
  · exact failsPlainly_plain fun value => trivial
  · exact failsPlainly_join
  · exact failsPlainly_split
  · exact failsPlainly_indent

end Filter

/-! ## Nodes and contexts -/

/-- What is asked of a node whose failures are to be foreseen. -/
structure Node.SelfContained (reached : String → Prop) (node : Node) : Prop where
  /-- Its filters report faults only. -/
  filters : node.Uses Filter.FailsPlainly
  /-- It leads to no other template. -/
  alone : node.template? = none
  /-- If it is a block, its name is one of those that are reached. -/
  name : ∀ block, node = .block block → reached block.name

/-- The blocks that wait for a name that is reached are made of self-contained nodes.
What waits for other names may be anything. -/
def Overrides.SelfContained (reached : String → Prop) (overrides : Option Overrides) :
    Prop :=
  ∀ name block, reached name →
    (overrides.bind fun waiting => waiting.get? name) = some block →
    Node.All (Node.SelfContained reached) [.block block]

namespace Environment

variable (env : Environment σ)

/-- The failures that do not come from looking for a name: a fault, and the two
limits. -/
inductive Foreseen : Error → Prop where
  | fault (fault : Fault) : Foreseen (.fault fault)
  | tooDeep : Foreseen (.tooDeep env.maxDepth)
  | rangeTooLarge (lower upper : Int64) :
      Foreseen (.rangeTooLarge lower upper env.maxRange)

/-- The outcome is a value or such a failure. -/
abbrev Foresees (outcome : Except Error α) : Prop :=
  EndsIn env.Foreseen (fun _ => True) outcome

variable {env}

/-! ## Expressions -/

section Expressions

variable (scopes : Scopes)

private theorem foreseen_applyAll {filters : List AppliedFilter}
    (h : ∀ applied ∈ filters, applied.filter.FailsPlainly) (value : Value) :
    env.Foresees (FilterChain.applyAll scopes value filters) := by
  induction filters generalizing value with
  | nil => trivial
  | cons applied rest ih =>
      obtain ⟨hApplied, hRest⟩ := List.forall_mem_cons.mp h
      have hInvoked : env.Foresees
          (applied.filter.invoke value
            (applied.arguments.map fun argument => argument.resolve scopes)) :=
        (hApplied _ _).mono (fun error ⟨fault, hFault⟩ => hFault ▸ .fault fault)
          fun _ _ => trivial
      exact hInvoked.bind fun result _ => ih hRest result

private theorem foreseen_resolveChain {chain : FilterChain}
    (h : chain.Uses Filter.FailsPlainly) :
    env.Foresees (chain.resolve scopes) :=
  foreseen_applyAll scopes h _

private theorem foreseen_between (lower upper : Int64) :
    env.Foresees (RangeExpression.between env.maxRange lower upper) := by
  unfold RangeExpression.between
  split
  · trivial
  · exact .rangeTooLarge lower upper

private theorem foreseen_resolveRange {range : RangeExpression}
    (h : range.Uses Filter.FailsPlainly) :
    env.Foresees (range.resolve env.maxRange scopes) := by
  refine (foreseen_resolveChain scopes h.1).bind fun lower _ => ?_
  cases lower with
  | int first =>
      refine (foreseen_resolveChain scopes h.2).bind fun upper _ => ?_
      cases upper with
      | int last => exact foreseen_between first last
      | _ => exact .fault _
  | _ => exact .fault _

private theorem foreseen_resolveOperand {operand : Operand}
    (h : operand.Uses Filter.FailsPlainly) :
    env.Foresees (operand.resolve env.maxRange scopes) := by
  cases operand with
  | single subject => trivial
  | filtered chain => exact foreseen_resolveChain scopes h
  | between range => exact foreseen_resolveRange scopes h

private theorem foreseen_evaluate {condition : Condition}
    (h : condition.Uses Filter.FailsPlainly) :
    env.Foresees (condition.evaluate env.maxRange scopes) := by
  induction condition with
  | constant truth => trivial
  | holds operand =>
      exact (foreseen_resolveOperand scopes h).bind fun value _ => trivial
  | not condition ih => exact (ih h).bind fun truth _ => trivial
  | and left right ihLeft ihRight =>
      refine (ihLeft h.1).bind fun truth _ => ?_
      cases truth with
      | true => exact ihRight h.2
      | false => trivial
  | or left right ihLeft ihRight =>
      refine (ihLeft h.1).bind fun truth _ => ?_
      cases truth with
      | true => trivial
      | false => exact ihRight h.2
  | compare comparison left right =>
      -- Only two plain operands are looked at.
      cases left with
      | holds leftOperand =>
          cases right with
          | holds rightOperand =>
              refine (foreseen_resolveOperand scopes h.1).bind fun leftValue _ => ?_
              exact (foreseen_resolveOperand scopes h.2).bind
                fun rightValue _ => trivial
          | _ => trivial
      | _ => trivial

end Expressions

private theorem foreseen_bindings (names : List String) (item : Value) :
    env.Foresees (Iteration.bindings names item) := by
  unfold Iteration.bindings
  split
  · trivial
  · trivial
  · split
    · exact .fault _
    · trivial

/-! ## Computations -/

open Render

/-- Where only self-contained blocks wait the computation gives one of these values or
fails foreseeably, and only self-contained blocks go on to wait. -/
def Fares (env : Environment σ) (reached : String → Prop) (values : α → Prop)
    (computation : Render σ α) : Prop :=
  ∀ context : Context σ, Overrides.SelfContained reached context.overrides →
    EndsIn env.Foreseen values (computation.result context) ∧
      Overrides.SelfContained reached (computation.after context).overrides

/-- The same for a computation of which all values will do. -/
abbrev FaresWell (env : Environment σ) (reached : String → Prop)
    (computation : Render σ α) : Prop :=
  env.Fares reached (fun _ => True) computation

variable {reached : String → Prop}

namespace Fares

theorem pure {values : α → Prop} {value : α} (h : values value) :
    env.Fares reached values (Pure.pure value) :=
  fun _ hWaiting => ⟨h, hWaiting⟩

theorem throw {values : α → Prop} {error : Error} (h : env.Foreseen error) :
    env.Fares reached values (throw error) :=
  fun _ hWaiting => ⟨h, hWaiting⟩

theorem ofExcept {values : α → Prop} {outcome : Except Error α}
    (h : EndsIn env.Foreseen values outcome) :
    env.Fares reached values (Render.ofExcept outcome) := by
  intro context hWaiting
  rw [result_ofExcept, after_ofExcept]
  exact ⟨h, hWaiting⟩

theorem bind {values : α → Prop} {others : β → Prop} {first : Render σ α}
    {next : α → Render σ β} (hFirst : env.Fares reached values first)
    (hNext : ∀ value, values value → env.Fares reached others (next value)) :
    env.Fares reached others (first >>= next) := by
  intro context hWaiting
  obtain ⟨hGiven, hLeft⟩ := hFirst context hWaiting
  rw [result_bind, after_bind]
  cases hResult : first.result context with
  | ok value =>
      rw [hResult] at hGiven
      exact hNext value hGiven _ hLeft
  | error error =>
      rw [hResult] at hGiven
      exact ⟨hGiven, hLeft⟩

theorem outcome {values : α → Prop} {computation : Render σ α}
    (h : env.Fares reached values computation) :
    env.Fares reached (EndsIn env.Foreseen values) computation.outcome := by
  intro context hWaiting
  rw [result_outcome, after_outcome]
  exact h context hWaiting

theorem scopes : env.FaresWell reached Render.scopes :=
  fun _ hWaiting => ⟨trivial, hWaiting⟩

theorem overrides :
    env.Fares reached (Overrides.SelfContained reached) Render.overrides :=
  fun _ hWaiting => ⟨hWaiting, hWaiting⟩

theorem setOverrides {waiting : Option Overrides}
    (h : Overrides.SelfContained reached waiting) :
    env.FaresWell reached (Render.setOverrides waiting) :=
  fun _ _ => ⟨trivial, h⟩

/-- A block that is taken for a name that is reached is self-contained, and so are those
that are left. -/
theorem takeOverride {name : String} (hName : reached name) :
    env.Fares reached (fun found => ∀ block ∈ found,
      Node.All (Node.SelfContained reached) [.block block])
      (Render.takeOverride name) := by
  intro context hWaiting
  rw [result_takeOverride, after_takeOverride]
  refine ⟨fun block hFound => hWaiting name block hName hFound,
    fun other block hOther hFound => ?_⟩
  obtain ⟨waiting, hSome, hBlock⟩ := Option.bind_eq_some_iff.mp hFound
  obtain ⟨before, hBefore, rfl⟩ := Option.map_eq_some_iff.mp hSome
  rw [Mapping.get?_erase] at hBlock
  split at hBlock
  · cases hBlock
  · exact hWaiting other block hOther
      (Option.bind_eq_some_iff.mpr ⟨before, hBefore, hBlock⟩)

theorem within {values : α → Prop} {body : Render σ α}
    (h : env.Fares reached values body) (scope : Scope) :
    env.Fares reached values (env.within scope body) := by
  intro context hWaiting
  show EndsIn _ _ ((Render.within env.maxDepth scope body).result context) ∧
    Overrides.SelfContained _
      ((Render.within env.maxDepth scope body).after context).overrides
  rw [result_within, after_within]
  split
  · exact ⟨.tooDeep, hWaiting⟩
  · exact h (context.push scope) hWaiting

theorem joinTexts {pieces : List (Render σ String)}
    (h : ∀ piece ∈ pieces, env.FaresWell reached piece) (text : String) :
    env.FaresWell reached (Render.joinTexts text pieces) := by
  induction pieces generalizing text with
  | nil => exact pure trivial
  | cons first rest ih =>
      obtain ⟨hFirst, hRest⟩ := List.forall_mem_cons.mp h
      exact hFirst.bind fun more _ => ih hRest (text ++ more)

theorem select {accept : α → Render σ Bool}
    (h : ∀ item, env.FaresWell reached (accept item)) (accepted items : List α) :
    env.FaresWell reached (Render.select accept accepted items) := by
  induction items generalizing accepted with
  | nil => exact pure trivial
  | cons item rest ih =>
      refine (h item).bind fun answer _ => ?_
      cases answer with
      | true => exact ih (item :: accepted)
      | false => exact ih accepted

end Fares

/-! ## Tags -/

private theorem fares_resolve {operand : Operand}
    (h : operand.Uses Filter.FailsPlainly) :
    env.FaresWell reached (env.resolve operand) :=
  Fares.scopes.bind fun scopes _ => .ofExcept (foreseen_resolveOperand scopes h)

private theorem fares_test {condition : Option Condition}
    (h : ∀ test ∈ condition, test.Uses Filter.FailsPlainly) :
    env.FaresWell reached (env.test condition) := by
  cases condition with
  | none => exact .pure trivial
  | some condition =>
      exact Fares.scopes.bind fun scopes _ =>
        .ofExcept (foreseen_evaluate scopes (h condition rfl))

private theorem fares_printTime (format : String) :
    env.FaresWell reached (env.printTime format) := by
  unfold printTime
  split
  · exact .pure trivial
  · exact .throw (.fault _)

private theorem fares_renderNow (format : Option Variable) :
    env.FaresWell reached (env.renderNow format) := by
  cases format with
  | none => exact fares_printTime standardTimeFormat
  | some format =>
      refine Fares.scopes.bind fun scopes _ => ?_
      split
      · exact fares_printTime _
      · exact .pure trivial

private theorem fares_acceptedItems (names : List String) {condition : Option Condition}
    (h : ∀ test ∈ condition, test.Uses Filter.FailsPlainly) (items : List Value) :
    env.FaresWell reached (env.acceptedItems names condition items) := by
  have hAccepts : ∀ item,
      env.FaresWell reached (env.accepts names condition item) := fun item =>
    (Fares.ofExcept (foreseen_bindings names item)).bind
      fun scope _ => (fares_test h).within scope
  cases condition with
  | none => exact .pure trivial
  | some condition => exact .select hAccepts [] items

private theorem fares_renderItems (names : List String) (items : List Value)
    {body empty : Render σ String} (hBody : env.FaresWell reached body)
    (hEmpty : env.FaresWell reached empty) :
    env.FaresWell reached (env.renderItems names items body empty) := by
  have hItem : ∀ item, env.FaresWell reached
      (env.renderItem names items.length body item) := fun item =>
    (Fares.ofExcept (foreseen_bindings names item.1)).bind
      fun scope _ => (hBody.within scope).within _
  unfold renderItems
  split
  · exact hEmpty.within Mapping.empty
  · refine .joinTexts (fun piece hPiece => ?_) ""
    obtain ⟨item, -, rfl⟩ := List.mem_map.mp hPiece
    exact hItem item

private theorem fares_renderLoop (names : List String) {source : Operand}
    {condition : Option Condition} (hSource : source.Uses Filter.FailsPlainly)
    (hCondition : ∀ test ∈ condition, test.Uses Filter.FailsPlainly)
    {body empty : Render σ String} (hBody : env.FaresWell reached body)
    (hEmpty : env.FaresWell reached empty) :
    env.FaresWell reached (env.renderLoop names source condition body empty) := by
  refine (fares_resolve hSource).bind fun value _ => ?_
  refine (fares_acceptedItems names hCondition _).bind fun items _ => ?_
  exact fares_renderItems names items hBody hEmpty

private theorem fares_renderFiltered {chain : FilterChain}
    (hChain : chain.Uses Filter.FailsPlainly) {body : Render σ String}
    (hBody : env.FaresWell reached body) :
    env.FaresWell reached (env.renderFiltered chain body) := by
  refine hBody.bind fun text _ => Fares.within ?_ _
  refine Fares.scopes.bind fun scopes _ => ?_
  exact (Fares.ofExcept (foreseen_resolveChain scopes hChain)).bind
    fun value _ => .pure trivial

/-- The blocks that wait are put back after the text that a block replaces. -/
private theorem fares_renderReplacement (replacement : Block Node)
    {body rendered : Render σ String} (hBody : env.FaresWell reached body)
    (hRendered : env.FaresWell reached rendered) :
    env.FaresWell reached (env.renderReplacement replacement body rendered) := by
  unfold renderReplacement
  split
  · refine Fares.overrides.bind fun waiting hWaiting => hBody.outcome.bind
      fun text hText => ?_
    refine (Fares.setOverrides hWaiting).bind fun _ _ => (Fares.ofExcept hText).bind
      fun replaced _ => ?_
    exact hRendered.within (superScope replaced)
  · exact hRendered.within Mapping.empty

/-! ## Trees -/

section Trees

-- The recursion hands the hypothesis on, which the linter does not see.
set_option linter.unusedSectionVars false

variable {deeper : List Node → Render σ String}
  (h : ∀ nodes, Node.All (Node.SelfContained reached) nodes →
    env.FaresWell reached (deeper nodes))

include h

mutual

private theorem fares_renderNode (node : Node)
    (hNode : Node.All (Node.SelfContained reached) [node]) :
    env.FaresWell reached (env.renderNode deeper node) := by
  have hSelf : node.SelfContained reached := hNode node (by simpa using node.mem_parts)
  cases node with
  | text contents => exact .pure trivial
  | output operand =>
      exact (fares_resolve hSelf.filters).bind fun value _ => .pure trivial
  | loop names source condition body empty =>
      obtain ⟨-, hBody, hEmpty⟩ := Node.all_loop.mp hNode
      exact fares_renderLoop names hSelf.filters.1 hSelf.filters.2
        (fares_renderNodes body hBody) (fares_renderNodes empty hEmpty)
  | choice branches =>
      exact fares_renderBranches branches hSelf.filters (Node.all_choice.mp hNode).2
  | block block =>
      exact fares_renderBlock block (hSelf.name block rfl) (Node.all_block.mp hNode).2
  | inherit parent blocks => cases hSelf.alone
  | embed name bindings => cases hSelf.alone
  | filtered chain body =>
      exact fares_renderFiltered hSelf.filters
        (fares_renderNodes body (Node.all_filtered.mp hNode).2)
  | now format => exact fares_renderNow format
  | custom action => exact hSelf.filters.elim

private theorem fares_renderBlock (block : Block Node) (hName : reached block.name)
    (hBlock : Node.All (Node.SelfContained reached) block.body) :
    env.FaresWell reached (env.renderBlock deeper block) := by
  obtain ⟨name, usesSuper, body⟩ := block
  refine (Fares.takeOverride hName).bind fun found hFound => ?_
  cases found with
  | none => exact fares_renderNodes body hBlock
  | some replacement =>
      exact fares_renderReplacement replacement (fares_renderNodes body hBlock)
        (h _ (hFound replacement rfl))

theorem fares_renderNodes (nodes : List Node)
    (hNodes : Node.All (Node.SelfContained reached) nodes) :
    env.FaresWell reached (env.renderNodes deeper nodes) := by
  cases nodes with
  | nil => exact .pure trivial
  | cons node rest =>
      obtain ⟨hNode, hRest⟩ := Node.all_cons.mp hNodes
      exact (fares_renderNode node hNode).bind fun text _ =>
        (fares_renderNodes rest hRest).bind fun more _ => .pure trivial

private theorem fares_renderBranches (branches : List (Branch Node))
    (hTests : ∀ branch ∈ branches, ∀ test ∈ branch.condition,
      test.Uses Filter.FailsPlainly)
    (hBodies : ∀ branch ∈ branches, Node.All (Node.SelfContained reached) branch.body) :
    env.FaresWell reached (env.renderBranches deeper branches) := by
  cases branches with
  | nil => exact .pure trivial
  | cons branch rest =>
      obtain ⟨condition, body⟩ := branch
      obtain ⟨hTest, hOtherTests⟩ := List.forall_mem_cons.mp hTests
      obtain ⟨hBody, hOtherBodies⟩ := List.forall_mem_cons.mp hBodies
      refine (fares_test hTest).bind fun answer _ => ?_
      cases answer with
      | true => exact (fares_renderNodes body hBody).within Mapping.empty
      | false => exact fares_renderBranches rest hOtherTests hOtherBodies

end

end Trees

/-! ## Whole renderings -/

/-- Every number of layers fails foreseeably, by induction on it: blocks are rendered
with a layer less, and the lowest layer fails for the limit on the depth of scopes. -/
private theorem fares_renderLayered (layers : Nat) (nodes : List Node)
    (hNodes : Node.All (Node.SelfContained reached) nodes) :
    env.FaresWell reached (env.renderLayered layers nodes) := by
  induction layers generalizing nodes with
  | zero => exact fares_renderNodes (fun _ _ => .throw .tooDeep) nodes hNodes
  | succ layers ih => exact fares_renderNodes ih nodes hNodes

private theorem fares_render {nodes : List Node}
    (hNodes : Node.All (Node.SelfContained reached) nodes) :
    env.FaresWell reached (env.render nodes) :=
  fares_renderLayered _ nodes hNodes

/-- Names are looked up when a template is parsed. With the standard tags and filters, a
source that does not parse is written wrongly or asks for a tag or a filter that nobody
knows. A template that does parse and has neither a parent nor an included template in
it, at any depth, fails for a fault or for one of the two limits, whatever loader,
limits and clock the environment has, whatever the scopes bind and whatever stands on
the shelf.

Blocks that wait in the context may be rendered in place of the template's own. Those
that wait for the name of a block that is reached, in the template or in such a block,
have to be like the template. -/
theorem failures_of_parse (env : Environment σ) (hTags : env.registry.HasStandardTags)
    (hFilters : env.registry.FindsStandardFilters) (source : String) :
    (∀ error, env.parse source = .error error → error.isSyntactic = true) ∧
      ∀ nodes, env.parse source = .ok nodes →
        (∀ part ∈ Node.partsOf nodes, part.template? = none) →
        ∀ (reached : String → Prop) (context : Context σ),
          (∀ block, Node.block block ∈ Node.partsOf nodes → reached block.name) →
          Overrides.SelfContained reached context.overrides →
          ∀ error, (env.render nodes).result context = .error error →
            env.Foreseen error := by
  have hFind : env.registry.findFilter.Checks Filter.FailsPlainly :=
    Registry.checks_findFilter fun name filter hFound =>
      Filter.failsPlainly_of_standard (hFilters name filter hFound)
  have hParsed : Checked (Node.AllUse Filter.FailsPlainly) (env.parse source) :=
    Registry.checked_parse hTags hFind source
  refine ⟨fun error hError => ?_,
    fun nodes hNodes hAlone reached context hReached hWaiting error hError => ?_⟩
  · rw [hError] at hParsed
    exact hParsed
  · rw [hNodes] at hParsed
    have hSelf : Node.All (Node.SelfContained reached) nodes := fun part hPart =>
      ⟨hParsed part hPart, hAlone part hPart,
        fun block hBlock => hReached block (hBlock ▸ hPart)⟩
    have hGiven : env.Foresees ((env.render nodes).result context) :=
      (fares_render hSelf context hWaiting).1
    rw [hError] at hGiven
    exact hGiven

/-! ## A template with a block -/

/-- The source of a template that is one block without a body. -/
def blockSource : String :=
  "\x7b% block x %\x7d\x7b% endblock %\x7d"

/-- The template of this source. -/
def blockNodes : List Node :=
  [.block ⟨"x", false, []⟩]

/-- Nothing loads but this template. -/
def blockEnvironment : Environment Unit where
  loader := some (.memory (Mapping.singleton "base" blockSource))
  clock := ⟨2024, 2, 29, 12, 0, 0, 0, 0⟩

/-- What the template is rendered in as the parent of one that brings these blocks. -/
def derivedContext (blocks : Overrides) : Context Unit :=
  ⟨[Mapping.empty, Mapping.empty], some blocks,
    ⟨Mapping.singleton "base" ⟨some "base", blockNodes⟩, ()⟩⟩

/-- A block that indents by a width which is no number. -/
def wideBlock : Block Node :=
  ⟨"x", false, [.output (.filtered ⟨"1|indent:'a'", ⟨"1", .literal (.int 1)⟩,
    [⟨.withArguments Filter.indent, [⟨"'a'", .literal (.string "a")⟩]⟩]⟩)]⟩

/-- A block that includes a template which does not load. -/
def strayBlock (name : String) : Block Node :=
  ⟨name, false, [.embed ⟨"'stray'", .literal (.string "stray")⟩ none]⟩

private theorem hasStandardTags_blockEnvironment :
    blockEnvironment.registry.HasStandardTags :=
  fun _ => rfl

private theorem findsStandardFilters_blockEnvironment :
    blockEnvironment.registry.FindsStandardFilters :=
  fun _ _ hFound => Registry.findFilter_standard_eq_ok_iff.mp hFound

private theorem parse_blockSource :
    blockEnvironment.parse blockSource = .ok blockNodes :=
  Registry.parse_of_tokenize [.block "block x", .block "endblock"]
    (by decide +kernel) rfl

private theorem load_base : blockEnvironment.load "base" ⟨Mapping.empty, ()⟩ =
    .ok ⟨some "base", blockNodes⟩
      ⟨Mapping.singleton "base" ⟨some "base", blockNodes⟩, ()⟩ := by
  show blockEnvironment.store "base" blockSource ⟨Mapping.empty, ()⟩ = _
  unfold store
  rw [parse_blockSource]
  rfl

private theorem alone_blockNodes :
    ∀ part ∈ Node.partsOf blockNodes, part.template? = none := by
  simp [blockNodes, Node.partsOf, Node.parts, Block.parts, Node.template?]

/-- Indentation is a standard filter, so the block fails plainly. -/
private theorem selfContained_wideBlock :
    Node.All (Node.SelfContained (· = "x")) [.block wideBlock] := by
  have hFilter : ("indent", Filter.withArguments Filter.indent) ∈ Filter.standard := by
    simp [Filter.standard]
  intro part hPart
  simp only [wideBlock, Node.partsOf, Node.parts, Block.parts, List.append_nil,
    List.mem_cons, List.not_mem_nil, or_false] at hPart
  obtain rfl | rfl := hPart
  · refine ⟨trivial, rfl, ?_⟩
    rintro block ⟨⟩
    rfl
  · refine ⟨?_, rfl, nofun⟩
    rintro applied (_ | ⟨_, ⟨⟩⟩)
    exact Filter.failsPlainly_of_standard hFilter

/-- An unknown tag is an error of parsing. The width of an indentation is one of
rendering, here of a block that waits for the template's own; of the block that waits
beside it for a name that is not reached nothing is asked. -/
theorem failures_of_parse_of_wide_block :
    let blocks := (Mapping.singleton "x" wideBlock).insert "y" (strayBlock "y")
    (blockEnvironment.parse "\x7b% nope %\x7d" = .error (.unknownTag "nope") ∧
      (Error.unknownTag "nope").isSyntactic = true) ∧
    (blockEnvironment.render blockNodes).result (derivedContext blocks) =
      .error (.fault (.indentWidth "a")) ∧
    blockEnvironment.Foreseen (.fault (.indentWidth "a")) := by
  intro blocks
  have hAll := blockEnvironment.failures_of_parse hasStandardTags_blockEnvironment
    findsStandardFilters_blockEnvironment
  have hUnknown : blockEnvironment.parse "\x7b% nope %\x7d" =
      .error (.unknownTag "nope") := by
    have hTokens : tokenize "\x7b% nope %\x7d" = [.block "nope"] := by decide +kernel
    rw [parse, Registry.parse, hTokens]
    rfl
  have hError : (blockEnvironment.render blockNodes).result (derivedContext blocks) =
      .error (.fault (.indentWidth "a")) := rfl
  refine ⟨⟨hUnknown, (hAll _).1 _ hUnknown⟩, hError, ?_⟩
  refine (hAll _).2 blockNodes parse_blockSource alone_blockNodes
    (· = "x") _ ?_ ?_ _ hError
  · simp [blockNodes, Node.partsOf, Node.parts, Block.parts]
  · rintro name block rfl hFound
    have hBlock : some wideBlock = some block := hFound
    obtain rfl := Option.some.inj hBlock
    exact selfContained_wideBlock

/-- The source of a child that brings such a block. -/
def strayChild : String :=
  "\x7b% extends 'base' %\x7d\x7b% block x %\x7d\x7b% include 'stray' %\x7d" ++
    "\x7b% endblock %\x7d"

private theorem parse_strayChild : blockEnvironment.parse strayChild =
    .ok [.inherit ⟨"'base'", .literal (.string "base")⟩ [("x", strayBlock "x")]] :=
  Registry.parse_of_tokenize [.block "extends 'base'", .block "block x",
    .block "include 'stray'", .block "endblock"] (by decide +kernel) rfl

/-- Where a block waits for the template's own and includes a template, the rendering
may fail because that one is not found, although the template itself leads to no other.
The context is the one in which a child with this block renders its parent, and the
child fails alike. -/
theorem not_foreseen_of_stray_block :
    blockEnvironment.registry.HasStandardTags ∧
    blockEnvironment.registry.FindsStandardFilters ∧
    blockEnvironment.parse blockSource = .ok blockNodes ∧
    (∀ part ∈ Node.partsOf blockNodes, part.template? = none) ∧
    (blockEnvironment.render blockNodes).result
        (derivedContext (Mapping.singleton "x" (strayBlock "x"))) =
      .error (.notFound ["stray"] (some "MemoryLoader")) ∧
    ¬ blockEnvironment.Foreseen (.notFound ["stray"] (some "MemoryLoader")) ∧
    (blockEnvironment.renderText strayChild Mapping.empty).result ⟨Mapping.empty, ()⟩ =
      .error (.notFound ["stray"] (some "MemoryLoader")) := by
  refine ⟨hasStandardTags_blockEnvironment, findsStandardFilters_blockEnvironment,
    parse_blockSource, alone_blockNodes, ?_, nofun, ?_⟩
  · rfl
  · rw [result_renderText_of_inherit parse_strayChild rfl, Session.result,
      Session.after, load_base]
    rfl

end Environment

end TextTemplate
