import TextTemplate.Proofs.Coupling.Trees
import TextTemplate.Proofs.Inheritance.Waiting

/-!
# What a rendering can come to

The tree that is rendered is only part of what a rendering comes to: it goes on with the
templates that the tree names, with those that these name, and so on. Which names the
operands have depends on the data, and what a tag of the application's own renders
depends on what it finds, so `Reaches` allows for every value that an operand might have
in some scopes and for everything that such a tag might do. A property that holds
everywhere holds of all nodes that can be reached in this way.

Most couplings relate renderings that are given the same blocks and load the same
templates, and that differ in their scopes, their shelves, their limits or their time.
`Coupling.sharing` is the coupling of all of these, with a property that everything
reached has to have; what the property must exclude depends on what differs.

## Main definitions

* `Node.Reaches`, `Node.Everywhere`.
* `Coupling.sharing` — renderings that share the blocks that wait and what names
  load as.

## Main results

* `tandem_sharing` — such renderings are in step where the property holds everywhere.
* `Environment.LoadsAlike.after_renderLayered` — what loading preserves about a shelf,
  rendering preserves.
-/

namespace TextTemplate

variable {σ : Type}

/-! ## Reachable nodes -/

/-- A rendering of the nodes can come to a node: it stands in their trees, in a template
that loads by a value that an operand of a node has in some scopes, or in what a tag of
the application's own renders. -/
inductive Node.Reaches (loads : String → Template → Prop) (nodes : List Node) :
    Node → Prop where
  | inside {part : Node} (h : part ∈ Node.partsOf nodes) : Reaches loads nodes part
  | loaded {node part : Node} {operand : Variable} {scopes : Scopes} {name : String}
      {template : Template} (hNode : Reaches loads nodes node)
      (hOperand : node.template? = some operand) (hName : operand.resolve scopes =
        .string name)
      (hLoad : loads name template) (hPart : part ∈ Node.partsOf template.nodes) :
      Reaches loads nodes part
  | rendered {action : Action} {body : List Node} {part : Node}
      (hNode : Reaches loads nodes (.custom action)) (hBody : action.Renders body)
      (hPart : part ∈ Node.partsOf body) : Reaches loads nodes part

/-- All nodes that a rendering can come to satisfy a property. -/
def Node.Everywhere (loads : String → Template → Prop) (property : Node → Prop)
    (nodes : List Node) :
    Prop :=
  ∀ node, Node.Reaches loads nodes node → property node

namespace Node

variable {loads : String → Template → Prop} {property : Node → Prop} {nodes : List Node}

theorem Reaches.self (node : Node) : Reaches loads [node] node :=
  .inside (List.mem_append_left _ node.mem_parts)

/-- What can be reached from nodes that can be reached can be reached. -/
theorem Reaches.trans {inner : List Node} {part : Node} (h : Reaches loads inner part)
    (hInner : ∀ other ∈ partsOf inner, Reaches loads nodes other) :
    Reaches loads nodes part := by
  induction h with
  | inside hPart => exact hInner _ hPart
  | loaded _ hOperand hName hLoad hPart ih =>
      exact .loaded ih hOperand hName hLoad hPart
  | rendered _ hBody hPart ih => exact .rendered ih hBody hPart

namespace Everywhere

/-- What holds of all nodes holds everywhere. -/
theorem of_forall (h : ∀ node, property node) : Everywhere loads property nodes :=
  fun node _ => h node

/-- What holds in a tree and in every template that loads, and excludes the
application's own tags, holds everywhere. -/
theorem of_loadable (hNodes : Node.All property nodes)
    (hLoad : ∀ name template, loads name template → Node.All property template.nodes)
    (hCustom : ∀ action, ¬ property (.custom action)) :
    Everywhere loads property nodes := by
  intro node hReaches
  induction hReaches with
  | inside h => exact hNodes _ h
  | loaded _ _ _ hTemplate hPart => exact hLoad _ _ hTemplate _ hPart
  | rendered _ _ _ ih => exact absurd ih (hCustom _)

theorem mono {weaker : Node → Prop} (h : Everywhere loads property nodes)
    (hWeaker : ∀ node, property node → weaker node) : Everywhere loads weaker nodes :=
  fun node hNode => hWeaker node (h node hNode)

theorem self {node : Node} (h : Everywhere loads property [node]) : property node :=
  h node (.self node)

theorem of_subset {inner : List Node} (h : Everywhere loads property nodes)
    (hInner : partsOf inner ⊆ partsOf nodes) : Everywhere loads property inner :=
  fun node hNode => h node (hNode.trans fun _ hPart => .inside (hInner hPart))

theorem each (h : Everywhere loads property nodes) :
    Node.All (fun part => Everywhere loads property [part]) nodes := by
  intro part hPart
  refine h.of_subset ?_
  rw [partsOf_singleton]
  exact partsOf_subset nodes hPart

/-- What holds everywhere holds everywhere in a template that is loaded. -/
theorem of_loaded {node : Node} (h : Everywhere loads property [node])
    {operand : Variable} (hOperand : node.template? = some operand) {scopes : Scopes}
    {name : String} (hName : operand.resolve scopes = .string name)
    {template : Template} (hLoad : loads name template) :
    Everywhere loads property template.nodes :=
  fun part hPart => h part
    (hPart.trans fun _ hOther => .loaded (.self node) hOperand hName hLoad hOther)

/-- What holds everywhere holds everywhere in what a tag of the application's
own renders. -/
theorem of_rendered {action : Action} (h : Everywhere loads property [.custom action])
    {body : List Node} (hBody : action.Renders body) : Everywhere loads property body :=
  fun part hPart => h part
    (hPart.trans fun _ hOther => .rendered (.self _) hBody hOther)

/-- What holds everywhere in a node that names a parent holds everywhere in the blocks
that it brings. -/
theorem of_block {parent : Variable} {blocks : List (String × Block Node)}
    (h : Everywhere loads property [.inherit parent blocks]) {name : String}
    {block : Block Node} (hBlock : (name, block) ∈ blocks) :
    Everywhere loads property [.block block] := by
  refine h.of_subset ?_
  rw [partsOf_singleton, partsOf_singleton]
  exact List.subset_cons_of_subset _ fun part hPart =>
    Block.mem_partsOf_iff.mpr ⟨_, hBlock, hPart⟩

end Everywhere

end Node

/-! ## Renderings that share blocks and templates -/

/-- The coupling of two renderings for which the same blocks wait, where a property
holds everywhere in them. -/
def Coupling.sharing (loads : String → Template → Prop) (property : Node → Prop)
    (scopes : Scopes → Scopes → Prop) (shelves : Shelf σ → Shelf σ → Prop)
    (excused : Error → Prop) (lasting : Prop) : Coupling σ where
  scopes := scopes
  overrides first second := second = first ∧ ∀ name block,
    (first.bind fun waiting => waiting.get? name) = some block →
      Node.Everywhere loads property [.block block]
  shelves := shelves
  excused := excused
  lasting := lasting

section Sharing

open Coupling

variable {loads : String → Template → Prop} {property : Node → Prop}
  {scopes : Scopes → Scopes → Prop} {shelves : Shelf σ → Shelf σ →
    Prop} {excused : Error → Prop}
  {lasting : Prop}

/-- Blocks that are lent on either side are the same, and the property holds everywhere
in them. -/
theorem Coupling.lend_sharing {parent : Variable} {blocks : List (String × Block Node)}
    (hNode : Node.Everywhere loads property [.inherit parent blocks])
    {first second : Option Overrides}
    (h : (sharing loads property scopes shelves excused lasting).overrides
      first second) :
    (sharing loads property scopes shelves excused lasting).overrides
      (some ((first.getD Mapping.empty).merge blocks))
      (some ((second.getD Mapping.empty).merge blocks)) := by
  obtain ⟨rfl, hWaiting⟩ := h
  refine ⟨rfl, fun name block hBlock => ?_⟩
  rcases Overrides.get?_of_merge hBlock with hBefore | hNew
  · refine hWaiting name block ?_
    cases second with
    | none => cases hBefore
    | some waiting => exact hBefore
  · exact hNode.of_block (Entries.mem_of_get?_eq_some hNew)

/-- Two renderings that share blocks and templates are in step on nodes from which only
nodes with the property are reached. -/
theorem tandem_sharing {env env' : Environment σ}
    (hOpens : (sharing loads property scopes shelves excused lasting).Opens
      env.maxDepth env'.maxDepth)
    (hAlike : ∀ first second, scopes first second → first.Alike second)
    (hRange : env'.maxRange = env.maxRange ∨ env.maxRange ≤ env'.maxRange ∧
      ∀ lower upper, excused (.rangeTooLarge lower upper env.maxRange))
    (hLoad : ∀ name first second, shelves first second →
      (env'.load name).result second = (env.load name).result first ∧
        shelves ((env.load name).after first) ((env'.load name).after second))
    (hLoads : ∀ name first second template, shelves first second →
      (env.load name).result first = .ok template → loads name template)
    (hNow : ∀ format, property (.now format) → env'.clock = env.clock)
    (hCustom : ∀ action, property (.custom action) →
      (sharing loads property scopes shelves excused lasting).Exact) :
    Tandem (sharing loads property scopes shelves excused lasting) env env'
      (fun node => Node.Everywhere loads property [node])
      (Node.All fun node => Node.Everywhere loads property [node]) where
  opens := hOpens
  alike := hAlike _ _
  range := hRange
  waiting h name := by rw [h.1]
  erase := by
    rintro block - first second ⟨rfl, hWaiting⟩
    refine ⟨rfl, fun other found hFound => hWaiting other found ?_⟩
    cases second with
    | none => cases hFound
    | some waiting =>
        exact (Mapping.get?_of_erase hFound).1
  waits _ _ _ h hWaits := (h.2 _ _ hWaits).each
  lend hFits _ _ h := ⟨lend_sharing hFits h, by rw [h.1]⟩
  load name _ _ h := .of_eq (hLoad name _ _ h).1 (hLoad name _ _ h).2
  loaded hFits _ hOperand _ _ hName _ _ h _ hResult :=
    (hFits.of_loaded hOperand hName (hLoads _ _ _ _ h hResult)).each
  clock hFits := hNow _ hFits.self
  custom hFits := ⟨hCustom _ hFits.self, fun _ hBody => (hFits.of_rendered hBody).each⟩

end Sharing

/-! ## Renderings that differ in their shelves only -/

namespace Coupling

variable {loads : String → Template → Prop} {property : Node → Prop}
  {shelves : Shelf σ → Shelf σ → Prop}

theorem exact_sharing :
    (sharing loads property Eq shelves (fun _ => False) True).Exact :=
  ⟨trivial, fun _ => id, fun _ _ => Iff.rfl⟩

theorem opens_sharing (limit : Nat) :
    (sharing loads property Eq shelves (fun _ => False) True).Opens limit limit where
  push scope h := congrArg (scope :: ·) h
  room h hRoom := h ▸ hRoom
  full h hFull := .inr ⟨rfl, h ▸ hFull⟩

end Coupling

namespace Environment

open Coupling Render

variable {env : Environment σ}

/-- What loading preserves about a shelf, rendering preserves, whatever is rendered. -/
private theorem shelf_after_renderLayered (holds : Shelf σ → Prop)
    (hLoad : ∀ name shelf, holds shelf → holds ((env.load name).after shelf))
    (layers : Nat) (nodes : List Node) {context : Context σ} (h : holds context.shelf) :
    holds ((env.renderLayered layers nodes).after context).shelf := by
  -- The rendering is compared with itself.
  let coupling : Coupling σ := sharing (fun _ _ => True) (fun _ => True) Eq
    (fun first second => first = second ∧ holds first) (fun _ => False) True
  have hSelf : ∀ name first second, first = second ∧ holds first →
      (env.load name).result second = (env.load name).result first ∧
        (env.load name).after first = (env.load name).after second ∧
          holds ((env.load name).after first) := by
    rintro name first _ ⟨rfl, hFirst⟩
    exact ⟨rfl, rfl, hLoad name first hFirst⟩
  have hTandem : Tandem coupling env env _ _ :=
    tandem_sharing (opens_sharing env.maxDepth)
    (fun _ _ hScopes => hScopes ▸ .refl _) (.inl rfl) hSelf (fun _ _ _ _ _ _ => trivial)
    (fun _ _ => rfl) fun _ _ => exact_sharing
  have hJoins : coupling.Joins context context :=
    ⟨rfl, ⟨rfl, fun _ _ _ => .of_forall fun _ => trivial⟩, rfl, h⟩
  have hRun := hTandem.inStep_renderLayered 0 (.inl ⟨rfl, rfl⟩) layers nodes
    (fun _ _ => .of_forall fun _ => trivial) context context hJoins
  exact (hRun.of_strict trivial fun _ => id).2.shelves.2

/-- With a fixed loader, names load after a rendering as they did before. -/
theorem LoadsAlike.after_renderLayered (hFixed : env.Unchanging) (layers : Nat)
    (nodes : List Node) (context : Context σ) :
    env.LoadsAlike ((env.renderLayered layers nodes).after context).shelf
      context.shelf :=
  shelf_after_renderLayered (fun shelf => env.LoadsAlike shelf context.shelf)
    (fun name shelf h => (after_load hFixed shelf name).trans h) layers nodes (.refl _)

/-! ## Whole templates -/

theorem result_renderTemplate (env : Environment σ) (template : Template)
    (data : Mapping Value) (shelf : Shelf σ) :
    (env.renderTemplate template data).result shelf =
      (env.render template.nodes).result ⟨[data], none, shelf⟩ := by
  unfold Session.result renderTemplate Render.result
  cases env.render template.nodes ⟨[data], none, shelf⟩ <;> rfl

theorem after_renderTemplate (env : Environment σ) (template : Template)
    (data : Mapping Value) (shelf : Shelf σ) :
    (env.renderTemplate template data).after shelf =
      ((env.render template.nodes).after ⟨[data], none, shelf⟩).shelf := by
  unfold Session.after renderTemplate Render.after
  cases env.render template.nodes ⟨[data], none, shelf⟩ <;> rfl

/-- A source is rendered to what its nodes are rendered to. -/
theorem result_renderText_of_parse {env : Environment σ} {source : String}
    {nodes : List Node} (hParse : env.parse source = .ok nodes) (data : Mapping Value)
    (shelf : Shelf σ) :
    (env.renderText source data).result shelf = (env.render nodes).result ⟨[data], none,
      shelf⟩ := by
  rw [renderText, Session.result_bind, parseTemplate, hParse]
  exact result_renderTemplate env ⟨none, nodes⟩ data shelf

/-- A node that names a parent loads it, and renders it in an empty scope while further
blocks wait. -/
private theorem result_renderLayered_inherit {env : Environment σ} {operand : Variable}
    {context : Context σ} {parent : String}
    (hParent : operand.resolve context.scopes = .string parent)
    (blocks : List (String × Block Node)) (layers : Nat) :
    (env.renderLayered (layers + 1) [.inherit operand blocks]).result context =
      (env.load parent).result context.shelf >>= fun template =>
        (env.within Mapping.empty (env.renderLayered layers template.nodes)).result
          ⟨context.scopes, some ((context.overrides.getD Mapping.empty).merge blocks),
            (env.load parent).after context.shelf⟩ := by
  have hResult : (env.loadNamed operand).result context =
      (env.load parent).result context.shelf := by
    rw [result_loadNamed, hParent]
  rw [renderLayered, renderNodes_singleton, renderNode, renderParent_eq_lending,
    result_bind, hResult, env.after_loadNamed hParent]
  cases (env.load parent).result context.shelf with
  | error error => rfl
  | ok template => exact result_lending _ _ _

/-- So does a template that only names a parent. -/
theorem result_renderText_of_inherit {env : Environment σ} {source : String}
    {operand : Variable} {blocks : List (String × Block Node)}
    (hParse : env.parse source = .ok [.inherit operand blocks]) {data : Mapping Value}
    {parent : String} (hParent : operand.resolve [data] = .string parent)
    (shelf : Shelf σ) :
    (env.renderText source data).result shelf =
      (env.load parent).result shelf >>= fun template =>
        (env.within Mapping.empty
          (env.renderLayered env.maxDepth template.nodes)).result
          ⟨[data], some (Overrides.merge Mapping.empty blocks),
            (env.load parent).after shelf⟩ := by
  let context : Context σ := ⟨[data], none, shelf⟩
  rw [result_renderText_of_parse hParse]
  exact env.result_renderLayered_inherit (hParent : operand.resolve context.scopes = _)
    blocks env.maxDepth

end Environment

end TextTemplate
