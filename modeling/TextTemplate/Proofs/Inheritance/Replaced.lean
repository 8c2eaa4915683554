import TextTemplate.Proofs.Inheritance.Reserved

/-!
# Bodies that are replaced

A block that waits takes the place of the first block of its name. If it does not
mention what it replaces, the body of that block is never rendered, so it makes no
difference what that body is: two templates that differ in nothing else render alike,
and leave the same behind. This needs that the block is still waiting when the body
comes up. So the body must not stand where it may come up again, in the body of a loop,
and in front of it there must be nothing that could come to a block of the same name.

Both renderings run in one and the same context up to the block, and again from there
on. So nothing has to be related here but the two trees, and the induction follows the
path from their root to the block. Only where the trees bring the block to a parent
inside another one, the contexts differ until that one is taken.

## Main definitions

* `Node.DifferIn` — two trees that differ in the body of the first block of a name.
* `Node.DifferInside` — two trees that bring blocks to a parent, one of which
  differs so.

## Main results

* `Environment.renderLayered_eq_of_differIn`,
  `Environment.result_renderLayered_of_differInside` — the two render alike where a
  block is reserved for that name.
-/

namespace TextTemplate

variable {σ α β : Type}

/-- Nodes that differ in the body of a block of a name. What stands in front of the
block comes to no other block of that name, and the block is not in the body of a loop.
Blocks around it may differ in what they are said to mention. If the nodes bring the
block to a parent, they differ in the block that they bring for the name. -/
inductive Node.DifferIn (loads : String → Template → Prop) (name : String) :
    List Node → List Node → Prop where
  /-- The block stands in front. -/
  | here {usesSuper usesSuper' : Bool} {body body' rest : List Node} :
      DifferIn loads name (.block ⟨name, usesSuper, body⟩ :: rest)
        (.block ⟨name, usesSuper', body'⟩ :: rest)
  /-- The block stands behind a node. -/
  | behind {node : Node} {first second : List Node}
      (hNode : Everywhere loads (OtherThan name) [node])
      (h : DifferIn loads name first second) :
        DifferIn loads name (node :: first) (node :: second)
  /-- The block stands in a block of another name. -/
  | block {other : String} {usesSuper usesSuper' : Bool} {body body' rest : List Node}
      (hOther : other ≠ name) (h : DifferIn loads name body body') :
      DifferIn loads name (.block ⟨other, usesSuper, body⟩ :: rest)
        (.block ⟨other, usesSuper', body'⟩ :: rest)
  /-- The block stands in a filtered region. -/
  | filtered {chain : FilterChain} {body body' rest : List Node}
      (h : DifferIn loads name body body') :
      DifferIn loads name (.filtered chain body :: rest) (.filtered chain body' :: rest)
  /-- The block stands in a branch of a choice. -/
  | choice {condition : Option Condition} {body body' : List Node} {before behind :
      List (Branch Node)} {rest : List Node} (h : DifferIn loads name body body') :
      DifferIn loads name (.choice (before ++ ⟨condition, body⟩ :: behind) :: rest)
        (.choice (before ++ ⟨condition, body'⟩ :: behind) :: rest)
  /-- The block stands in what a loop renders in place of no items. -/
  | empty {names : List String} {source : Operand} {condition : Option Condition}
      {body empty empty' rest : List Node} (h : DifferIn loads name empty empty') :
      DifferIn loads name (.loop names source condition body empty :: rest)
        (.loop names source condition body empty' :: rest)
  /-- The block is one that is brought to a parent. -/
  | parent {parent : Variable} {blocks blocks' : List (String × Block Node)}
      {rest : List Node}
      (h : ∀ other, other ≠ name →
        Entries.get? blocks other = Entries.get? blocks' other) :
      DifferIn loads name (.inherit parent blocks :: rest)
        (.inherit parent blocks' :: rest)

/-! ## Computations that run alike in a context -/

namespace Render

variable {first second : Render σ α} {context other : Context σ}

theorem result_eq_of_eq (h : first context = second other) :
    first.result context = second.result other := by
  rw [result, result, h]

theorem after_eq_of_eq (h : first context = second other) :
    first.after context = second.after other := by
  rw [Render.after, Render.after, h]

/-- One computation after the other, where the second steps run alike behind the
first ones. -/
theorem bind_eq_of_eq {next next' : α → Render σ β} (h : first context = second context)
    (hNext : ∀ value, next value (first.after context) =
      next' value (first.after context)) :
    (first >>= next) context = (second >>= next') context := by
  have hResult := result_eq_of_eq h
  have hAfter := after_eq_of_eq h
  apply ext_run
  · rw [result_bind, result_bind, ← hResult, ← hAfter]
    cases first.result context with
    | ok value => exact result_eq_of_eq (hNext value)
    | error error => rfl
  · rw [after_bind, after_bind, ← hResult, ← hAfter]
    cases first.result context with
    | ok value => exact after_eq_of_eq (hNext value)
    | error error => rfl

theorem within_eq_of_eq {limit : Nat} {scope : Scope}
    (h : first (context.push scope) = second (context.push scope)) :
    Render.within limit scope first context =
      Render.within limit scope second context := by
  apply ext_run
  · rw [result_within, result_within, result_eq_of_eq h]
  · rw [after_within, after_within, after_eq_of_eq h]

private theorem aside_eq_of_eq (h : first context = second context) :
    aside first context = aside second context := by
  apply ext_run
  · rw [result_aside, result_aside, result_eq_of_eq h]
  · rw [after_aside, after_aside, after_eq_of_eq h]

/-- Lending the same blocks is lending alike. -/
private theorem lending_eq_of_eq {lend lend' : Option Overrides → Overrides}
    {body : Render σ α} (h : lend context.overrides = lend' context.overrides) :
    lending lend body context = lending lend' body context := by
  apply ext_run
  · rw [result_lending, result_lending, h]
  · rw [after_lending, after_lending, h]

end Render

namespace Environment

open Render

variable {env : Environment σ} {deeper : List Node → Render σ String}
  {context : Context σ}

/-! ## Nodes that run alike in a context -/

private theorem renderNodes_cons_eq_of_eq {node other : Node} (rest : List Node)
    (h : env.renderNode deeper node context = env.renderNode deeper other context) :
    env.renderNodes deeper (node :: rest) context =
      env.renderNodes deeper (other :: rest) context :=
  bind_eq_of_eq h fun _ => rfl

/-- Every number of layers renders what leads out of the tree in some way. -/
theorem exists_deeper (env : Environment σ) (layers : Nat) :
    ∃ deeper, env.renderLayered layers = env.renderNodes deeper := by
  cases layers <;> exact ⟨_, rfl⟩

/-- What is left behind a node makes no difference to a result if what follows has the
same result there. -/
private theorem result_renderLayered_cons_of_eq {layers : Nat} (node : Node)
    {first second : List Node}
    (h : (env.renderLayered layers first).result
      ((env.renderLayered layers [node]).after context) =
      (env.renderLayered layers second).result
        ((env.renderLayered layers [node]).after context)) :
    (env.renderLayered layers (node :: first)).result context =
      (env.renderLayered layers (node :: second)).result context := by
  obtain ⟨deeper, hDeeper⟩ := env.exists_deeper layers
  rw [hDeeper, renderNodes_singleton] at h
  rw [hDeeper, renderNodes, renderNodes, result_bind, result_bind]
  cases (env.renderNode deeper node).result context with
  | error error => rfl
  | ok text =>
      show (_ >>= _ : Render σ String).result _ = (_ >>= _ : Render σ String).result _
      rw [result_bind, result_bind, h]
      cases (env.renderNodes deeper second).result _ <;> rfl

/-- A block takes what waits for it before it renders anything. -/
theorem renderBlock_apply (name : String) (usesSuper : Bool) (body : List Node)
    (context : Context σ) :
    env.renderBlock deeper ⟨name, usesSuper, body⟩ context =
      match context.waiting? name with
      | none => env.renderNodes deeper body (context.took name)
      | some replacement =>
          env.renderReplacement replacement (env.renderNodes deeper body)
          (deeper [.block replacement]) (context.took name) := by
  have hTaken : (Render.takeOverride name) context =
      .ok (context.waiting? name) (context.took name) := by
    obtain ⟨scopes, overrides, shelf⟩ := context
    cases overrides <;> rfl
  simp only [renderBlock, bind, EStateM.bind, hTaken]
  cases context.waiting? name <;> rfl

/-- Of two blocks of one name whose bodies run alike, or are replaced without being
mentioned, nothing else is rendered. -/
private theorem renderBlock_eq_of_eq {name : String} {usesSuper usesSuper' : Bool}
    {body body' : List Node}
    (h : (∃ replacement, context.waiting? name = some replacement ∧
      replacement.usesSuper = false) ∨
      env.renderNodes deeper body (context.took name) =
        env.renderNodes deeper body' (context.took name)) :
    env.renderNode deeper (.block ⟨name, usesSuper, body⟩) context =
      env.renderNode deeper (.block ⟨name, usesSuper', body'⟩) context := by
  rw [renderNode, renderNode, renderBlock_apply, renderBlock_apply]
  rcases h with ⟨replacement, hWaits, hSilent⟩ | hBody
  · simp only [hWaits, renderReplacement, hSilent, Bool.false_eq_true, if_false]
  · cases context.waiting? name with
    | none => exact hBody
    | some replacement =>
        cases hSuper : replacement.usesSuper with
        | true =>
            simp only [env.renderReplacement_of_usesSuper hSuper]
            exact bind_eq_of_eq (aside_eq_of_eq hBody) fun _ => rfl
        | false => simp only [renderReplacement, hSuper, Bool.false_eq_true, if_false]

private theorem renderBranches_eq_of_eq {condition : Option Condition}
    {body body' : List Node}
    (h : env.renderNodes deeper body (context.push Mapping.empty) =
      env.renderNodes deeper body' (context.push Mapping.empty))
    (before behind : List (Branch Node)) :
    env.renderBranches deeper (before ++ ⟨condition, body⟩ :: behind) context =
      env.renderBranches deeper (before ++ ⟨condition, body'⟩ :: behind) context := by
  induction before with
  | nil =>
      refine bind_eq_of_eq rfl fun answer => ?_
      rw [after_test]
      cases answer with
      | true => exact within_eq_of_eq h
      | false => rfl
  | cons branch before ih =>
      obtain ⟨other, first⟩ := branch
      refine bind_eq_of_eq rfl fun answer => ?_
      rw [after_test]
      cases answer with
      | true => rfl
      | false => exact ih

/-! ## Trees that differ in a body that is replaced -/

variable {start : Shelf σ} {name : String} {reserved : Block Node}
  {first second : List Node}

/-- The induction over the path to the block. -/
private theorem renderNodes_eq_of_differIn (hFixed : env.Unchanging)
    (hSilent : reserved.usesSuper = false)
    (hNode : ∀ {context node}, env.Reserves start name reserved context →
      Node.Everywhere (env.Loads start) (Node.OtherThan name) [node] →
        env.Reserves start name reserved ((env.renderNode deeper node).after context))
    (h : Node.DifferIn (env.Loads start) name first second)
    (hContext : env.Reserves start name reserved context) :
    env.renderNodes deeper first context = env.renderNodes deeper second context := by
  induction h generalizing context with
  | here =>
      exact renderNodes_cons_eq_of_eq
        _ (renderBlock_eq_of_eq (.inl ⟨reserved, hContext.waiting?_eq, hSilent⟩))
  | behind hOther _ ih =>
      exact bind_eq_of_eq rfl fun _ => bind_eq_of_eq (ih (hNode hContext hOther))
        fun _ => rfl
  | block hOther _ ih =>
      exact renderNodes_cons_eq_of_eq
        _ (renderBlock_eq_of_eq (.inr (ih (hContext.took hOther))))
  | filtered _ ih =>
      exact renderNodes_cons_eq_of_eq _ (bind_eq_of_eq (ih hContext) fun _ => rfl)
  | choice _ ih =>
      exact renderNodes_cons_eq_of_eq
        _ (renderBranches_eq_of_eq (ih (hContext.push Mapping.empty)) _ _)
  | @empty names source condition body empty empty' rest _ ih =>
      refine renderNodes_cons_eq_of_eq _ (bind_eq_of_eq rfl fun value => ?_)
      rw [after_resolve]
      refine bind_eq_of_eq rfl fun items => ?_
      have hItems := hContext.after_of_inStep
        ((tandem_reserving hFixed).inStep_acceptedItems names condition
          (Iteration.items value))
      unfold renderItems
      split
      · exact within_eq_of_eq (ih (hItems.push Mapping.empty))
      · rfl
  | @parent parent blocks blocks' rest hBlocks =>
      refine renderNodes_cons_eq_of_eq _ ?_
      show env.renderParent parent blocks deeper context =
        env.renderParent parent blocks' deeper context
      rw [renderParent_eq_lending, renderParent_eq_lending]
      refine bind_eq_of_eq rfl fun template => lending_eq_of_eq
        (Mapping.ext_get? fun other => ?_)
      have hLoaded :=
        hContext.after_of_inStep ((tandem_reserving hFixed).inStep_loadNamed parent)
      obtain ⟨waiting, hWaiting, hReserves⟩ := hLoaded.waiting
      rw [hWaiting, Option.getD_some, Overrides.get?_merge, Overrides.get?_merge]
      by_cases hOther : other = name
      · rw [hOther, hReserves.waits, Option.some_or, Option.some_or]
      · rw [hBlocks other hOther]

/-- Where a block is reserved that does not mention what it replaces, templates that
differ in the body that it replaces render alike and leave the same context. -/
theorem renderLayered_eq_of_differIn (hFixed : env.Unchanging)
    (hSilent : reserved.usesSuper = false)
    (h : Node.DifferIn (env.Loads start) name first second)
    (hContext : env.Reserves start name reserved context) (layers : Nat) :
    env.renderLayered layers first context =
      env.renderLayered layers second context := by
  obtain ⟨deeper, hDeeper⟩ := env.exists_deeper layers
  rw [hDeeper]
  refine renderNodes_eq_of_differIn hFixed hSilent (fun hBefore hOther => ?_) h hContext
  have hAfter := hBefore.after_renderLayered hFixed hOther layers
  rwa [hDeeper, renderNodes_singleton] at hAfter

/-! ## Blocks that are brought to a parent

A base that is derived itself brings its blocks to its own parent, and the block that is
replaced may stand inside one of them. Then the two renderings do not run in the same
context from the start: until that outer block is taken, it waits in two versions. So
they are put side by side, up to the moment when the block is taken, where what has been
proved of trees applies, and behind which they run in the same context again. -/

end Environment

/-- Two blocks of one name that differ inside in the body of a block of another name.
They agree in whether they mention what they replace. -/
structure Block.DifferIn (loads : String → Template → Prop) (name : String)
    (first second : Block Node) :
    Prop where
  other : first.name ≠ name
  named : second.name = first.name
  mentions : second.usesSuper = first.usesSuper
  bodies : Node.DifferIn loads name first.body second.body

/-- Nodes that bring blocks to a parent and differ inside one of these, which is a block
of another name. Neither what stands in front of them, nor the ancestors, nor the other
blocks come to a block of the name that is replaced. -/
inductive Node.DifferInside (loads : String → Template → Prop) (name : String) :
    List Node → List Node → Prop where
  /-- The nodes bring the blocks. -/
  | brought {parent : Variable} {blocks blocks' : List (String × Block Node)}
      {version version' : Block Node}
      (hParent : Everywhere loads (OtherThan name) [.inherit parent []])
      (hVersions : Block.DifferIn loads name version version')
      (hFirst : Entries.get? blocks version.name = some version)
      (hSecond : Entries.get? blocks' version.name = some version')
      (hSame : ∀ key, key ≠ version.name →
        Entries.get? blocks key = Entries.get? blocks' key)
      (hOthers : ∀ key region, key ≠ name → key ≠ version.name →
        Entries.get? blocks key = some region →
        Everywhere loads (OtherThan name) [.block region]) :
      DifferInside loads name [.inherit parent blocks] [.inherit parent blocks']
  /-- A node stands in front. -/
  | behind {node : Node} {first second : List Node}
      (hNode : Everywhere loads (OtherThan name) [node])
      (h : DifferInside loads name first second) :
        DifferInside loads name (node :: first) (node :: second)

/-- The blocks that wait are the same but for one, which waits in two versions, and
besides this one no block of a reserved name is reached from them. -/
structure Overrides.DifferIn (loads : String → Template → Prop) (name : String)
    (reserved version version' : Block Node) (first second : Overrides) : Prop where
  waits : first.get? name = some reserved
  waitsFirst : first.get? version.name = some version
  waitsSecond : second.get? version.name = some version'
  same {key : String} (hKey : key ≠ version.name) : first.get? key = second.get? key
  others {key : String} {block : Block Node} (hKey : key ≠ name) (hOther : key ≠
    version.name)
    (h : first.get? key = some block) :
      Node.Everywhere loads (Node.OtherThan name) [.block block]

namespace Overrides.DifferIn

variable {loads : String → Template → Prop} {name : String}
  {reserved version version' : Block Node}
  {first second : Overrides}

/-- Blocks that come to wait behind a reserved one, the two versions among them. -/
theorem of_reserves {waiting : Overrides} (h : waiting.Reserves loads name reserved)
    (hFree : waiting.get? version.name = none)
    {blocks blocks' : List (String × Block Node)}
    (hFirst : Entries.get? blocks version.name = some version)
    (hSecond : Entries.get? blocks' version.name = some version')
    (hSame : ∀ key, key ≠ version.name →
      Entries.get? blocks key = Entries.get? blocks' key)
    (hOthers : ∀ key block, key ≠ name → key ≠ version.name →
      Entries.get? blocks key = some block →
      Node.Everywhere loads (Node.OtherThan name) [.block block]) :
    DifferIn loads name reserved version version' (waiting.merge blocks)
      (waiting.merge blocks') where
  waits := by rw [get?_merge, h.waits, Option.some_or]
  waitsFirst := by rw [get?_merge, hFree, Option.none_or, hFirst]
  waitsSecond := by rw [get?_merge, hFree, Option.none_or, hSecond]
  same hKey := by rw [get?_merge, get?_merge, hSame _ hKey]
  others := by
    intro key block hKey hOther hBlock
    rcases get?_of_merge hBlock with hBefore | hNew
    · exact h.others hKey hBefore
    · exact hOthers key block hKey hOther hNew

/-- Further blocks may come to wait. -/
theorem merge (h : DifferIn loads name reserved version version' first second)
    {blocks : List (String × Block Node)}
    (hBlocks : ∀ key block, (key, block) ∈ blocks →
      Node.Everywhere loads (Node.OtherThan name) [.block block]) :
    DifferIn loads name reserved version version' (first.merge blocks)
      (second.merge blocks) where
  waits := by rw [get?_merge, h.waits, Option.some_or]
  waitsFirst := by rw [get?_merge, h.waitsFirst, Option.some_or]
  waitsSecond := by rw [get?_merge, h.waitsSecond, Option.some_or]
  same hKey := by rw [get?_merge, get?_merge, h.same hKey]
  others := by
    intro key block hKey hOther hBlock
    rcases get?_of_merge hBlock with hBefore | hNew
    · exact h.others hKey hOther hBefore
    · exact hBlocks key block (Entries.mem_of_get?_eq_some hNew)

/-- Another block may be taken. -/
theorem erase (h : DifferIn loads name reserved version version' first second)
    {other : String} (hName : other ≠ name) (hVersion : other ≠ version.name) :
    DifferIn loads name reserved version version' (Mapping.erase first other)
      (Mapping.erase second other) where
  waits := by rw [Mapping.get?_erase, if_neg hName, h.waits]
  waitsFirst := by rw [Mapping.get?_erase, if_neg hVersion, h.waitsFirst]
  waitsSecond := by rw [Mapping.get?_erase, if_neg hVersion, h.waitsSecond]
  same hKey := by rw [Mapping.get?_erase, Mapping.get?_erase, h.same hKey]
  others := by
    intro key block hKey hOther hBlock
    exact h.others hKey hOther (Mapping.get?_of_erase hBlock).1

/-- When the block is taken that waits in two versions, the same blocks wait, and the
reserved one does. -/
theorem take (h : DifferIn loads name reserved version version' first second)
    (hOther : version.name ≠ name) :
    Mapping.erase first version.name = Mapping.erase second version.name ∧
      Overrides.Reserves (Mapping.erase first version.name) loads name reserved := by
  refine ⟨Mapping.ext_get? fun key => ?_, ?_, ?_⟩
  · rw [Mapping.get?_erase, Mapping.get?_erase]
    split
    · rfl
    · rename_i hKey
      exact h.same (Ne.symm hKey)
  · rw [Mapping.get?_erase, if_neg hOther, h.waits]
  · intro key block hKey hBlock
    obtain ⟨hBefore, hVersion⟩ := Mapping.get?_of_erase hBlock
    exact h.others hKey hVersion.symm hBefore

end Overrides.DifferIn

namespace Environment

open Render Coupling

variable {env : Environment σ} {deeper : List Node → Render σ String}
  {context : Context σ} {start : Shelf σ}
  {name : String} {reserved version version' : Block Node}

/-- The coupling of two renderings for which one block waits in two versions, or that
run in the same context. -/
def parted (env : Environment σ) (start : Shelf σ) (name : String)
    (reserved version version' : Block Node) :
    Coupling σ :=
  env.sameButBlocks start fun first second => first = second ∨
    ∃ waiting waiting', first = some waiting ∧ second = some waiting' ∧
      Overrides.DifferIn (env.Loads start) name reserved version version'
        waiting waiting'

theorem alongside_parted (hFixed : env.Unchanging) :
    Alongside (env.parted start name reserved version version') env env
      (fun node => Node.Everywhere (env.Loads start) (Node.OtherThan name) [node])
      (Node.All fun node => Node.Everywhere (env.Loads start)
        (Node.OtherThan name) [node]) := by
  refine alongside_sameButBlocks hFixed ?_
  rintro parent blocks _ _ hFits (rfl | ⟨waiting, waiting', rfl, rfl, hDiffer⟩)
  · exact ⟨.inl rfl, rfl⟩
  · exact ⟨.inr ⟨_, _, rfl, rfl, hDiffer.merge fun _ _ => hFits.of_block⟩, rfl⟩

/-- Blocks that differ inside in what is replaced there, and agree in whether they
mention what they replace, take the place of a block alike. -/
private theorem renderReplacement_eq_of_differIn
    (hVersions : Block.DifferIn (env.Loads start) name version version')
    {body : Render σ String} (hBody : env.LoadsAlike (body.after context).shelf start)
    (hContext : env.Reserves start name reserved context)
    (hDeeper : ∀ context, env.Reserves start name reserved context →
      deeper [.block version] context = deeper [.block version'] context) :
    env.renderReplacement version body (deeper [.block version]) context =
      env.renderReplacement version' body (deeper [.block version']) context := by
  cases hSuper : version.usesSuper with
  | true =>
      rw [env.renderReplacement_of_usesSuper hSuper,
        env.renderReplacement_of_usesSuper (hVersions.mentions.trans hSuper)]
      refine bind_eq_of_eq rfl fun text => within_eq_of_eq (hDeeper _ ?_)
      rw [after_aside]
      exact ⟨hContext.waiting, hBody⟩
  | false =>
      have hSuper' : version'.usesSuper = false := hVersions.mentions.trans hSuper
      simp only [renderReplacement, hSuper, hSuper', Bool.false_eq_true, if_false]
      exact within_eq_of_eq (hDeeper _ (hContext.push Mapping.empty))

/-- A block is in step: it takes the two versions where they are rendered alike, and
else the same on either side. -/
private theorem inStep_renderBlock_parted (hFixed : env.Unchanging)
    (hVersions : Block.DifferIn (env.Loads start) name version version') (layers : Nat)
    (hLayers : env.renderLayered layers = env.renderNodes deeper)
    (hDeeper : ∀ context, env.Reserves start name reserved context →
      deeper [.block version] context = deeper [.block version'] context)
    (h : ∀ nodes, Node.All (fun node => Node.Everywhere (env.Loads start)
      (Node.OtherThan name) [node]) nodes →
      (env.parted start name reserved version version').InStep (deeper nodes)
        (deeper nodes)) (hKeeps : ∀ nodes, (deeper nodes).Keeps False)
    {block : Block Node}
    (hFits : ∀ part ∈ Block.parts block,
      Node.Everywhere (env.Loads start) (Node.OtherThan name) [part])
    (hBody : (env.parted start name reserved version version').InStep
      (env.renderNodes deeper block.body)
      (env.renderNodes deeper block.body)) :
    (env.parted start name reserved version version').InStep
      (env.renderBlock deeper block)
      (env.renderBlock deeper block) := by
  obtain ⟨key, usesSuper, body⟩ := block
  have hLeft : ∀ context : Context σ, env.LoadsAlike context.shelf start →
      env.LoadsAlike ((env.renderBlock deeper ⟨key, usesSuper,
        body⟩).after context).shelf start := by
    intro context hStart
    have hAfter := LoadsAlike.after_renderLayered hFixed layers
      [.block ⟨key, usesSuper, body⟩] context
    rw [hLayers, renderNodes_singleton] at hAfter
    exact hAfter.trans hStart
  rintro ⟨scopes, first, shelf⟩ ⟨_, second, _⟩ ⟨rfl, hOverrides, rfl, hStart⟩
  obtain rfl | ⟨waiting, waiting', rfl, rfl, hDiffer⟩ := hOverrides
  · exact .of_eq rfl ⟨rfl, .inl rfl, rfl, hLeft _ hStart⟩
  · by_cases hKey : key = version.name
    · subst hKey
      obtain ⟨hTaken, hReserves⟩ := hDiffer.take hVersions.other
      let taken : Context σ :=
        ⟨scopes, some (Mapping.erase waiting version.name), shelf⟩
      have hFirst : (⟨scopes, some waiting, shelf⟩ : Context σ).took version.name =
          taken := rfl
      have hSecond : (⟨scopes, some waiting', shelf⟩ : Context σ).took
          version.name = taken := by
        simp only [Context.took, Option.map_some, taken, hTaken]
      have hBodyLeft :=
        ((hBody taken taken ⟨rfl, .inl rfl, rfl, hStart⟩).of_strict trivial
          fun _ => id).2.shelves.2
      have hSame : env.renderBlock deeper ⟨version.name, usesSuper, body⟩ ⟨scopes,
          some waiting, shelf⟩ =
          env.renderBlock deeper ⟨version.name, usesSuper, body⟩ ⟨scopes, some waiting',
            shelf⟩ := by
        have hWaits : (⟨scopes, some waiting, shelf⟩ : Context σ).waiting?
            version.name = some version :=
          hDiffer.waitsFirst
        have hWaits' : (⟨scopes, some waiting', shelf⟩ : Context σ).waiting?
            version.name = some version' :=
          hDiffer.waitsSecond
        simp only [renderBlock_apply, hWaits, hWaits', hFirst, hSecond]
        exact renderReplacement_eq_of_differIn hVersions hBodyLeft ⟨⟨_, rfl, hReserves⟩,
          hStart⟩ hDeeper
      refine .of_eq (result_eq_of_eq hSame.symm) ?_
      rw [← after_eq_of_eq hSame]
      exact ⟨rfl, .inl rfl, rfl, hLeft _ hStart⟩
    · have hName : key ≠ name := (hFits _ List.mem_cons_self).self
      exact (alongside_parted hFixed).matches_renderBlock h hKeeps hKeeps hBody
        (hDiffer.same hKey)
        ⟨rfl, .inr ⟨_, _, rfl, rfl, hDiffer.erase hName hKey⟩, rfl, hStart⟩
        fun replacement hWaits => (hDiffer.others hName hKey hWaits).each

/-- Nodes from which no block of the reserved name can be reached are in step, by
induction on the layers. -/
private theorem inStep_renderLayered_parted (hFixed : env.Unchanging)
    (hSilent : reserved.usesSuper = false)
    (hVersions : Block.DifferIn (env.Loads start) name version version') (layers : Nat)
    (nodes : List Node)
    (hFits : Node.All (fun node => Node.Everywhere (env.Loads start)
      (Node.OtherThan name) [node]) nodes) :
    (env.parted start name reserved version version').InStep
      (env.renderLayered layers nodes)
      (env.renderLayered layers nodes) := by
  induction layers generalizing nodes with
  | zero =>
      have hKeeps : ∀ inner : List Node,
          Keeps False (throw (.tooDeep env.maxDepth) : Render σ String) :=
        fun _ => keeps_throw False _
      exact (alongside_parted hFixed).inStep_renderNodes (fun _ _ => .throw _)
        hKeeps hKeeps
        (fun _ hParts => inStep_renderBlock_parted hFixed hVersions 0 rfl
          (fun _ _ => rfl) (fun _ _ => .throw _) hKeeps hParts) nodes hFits
  | succ layers ih =>
      have hKeeps : ∀ inner : List Node, (env.renderLayered layers inner).Keeps False :=
        fun inner => (env.keeps_renderLayered layers inner).loosen
      have hDeeper : ∀ context, env.Reserves start name reserved context →
          env.renderLayered layers [.block version] context =
            env.renderLayered layers [.block version'] context := by
        obtain ⟨other, _, body⟩ := version
        obtain ⟨_, _, body'⟩ := version'
        obtain ⟨hOther, rfl, rfl, hBodies⟩ := hVersions
        exact fun context hContext =>
          renderLayered_eq_of_differIn hFixed hSilent (.block hOther hBodies)
            hContext layers
      exact (alongside_parted hFixed).inStep_renderNodes ih hKeeps hKeeps
        (fun _ hParts =>
          inStep_renderBlock_parted hFixed hVersions (layers + 1) rfl hDeeper ih
            hKeeps hParts) nodes hFits

/-- Blocks that differ inside in what is replaced there are brought to a parent
alike. -/
private theorem result_renderParent_eq_of_differIn (hFixed : env.Unchanging)
    (h : ∀ nodes, Node.All (fun node => Node.Everywhere (env.Loads start)
      (Node.OtherThan name) [node]) nodes →
      (env.parted start name reserved version version').InStep (deeper nodes)
        (deeper nodes)) (hKeeps : ∀ nodes, (deeper nodes).Keeps False)
    {parent : Variable}
    (hParent : Node.Everywhere (env.Loads start) (Node.OtherThan name)
      [.inherit parent []]) {blocks blocks' : List (String × Block Node)}
    (hSame : ∀ key, key ≠ version.name →
      Entries.get? blocks key = Entries.get? blocks' key)
    (hDiffer : ∀ waiting : Overrides, waiting.Reserves (env.Loads start) name reserved →
      waiting.get? version.name = none →
        Overrides.DifferIn (env.Loads start) name reserved version version'
        (waiting.merge blocks) (waiting.merge blocks'))
    (hContext : env.Reserves start name reserved context) :
    (env.renderParent parent blocks deeper).result context =
      (env.renderParent parent blocks' deeper).result context := by
  have hLoaded :=
    hContext.after_of_inStep ((tandem_reserving hFixed).inStep_loadNamed parent)
  obtain ⟨waiting, hWaiting, hReserves⟩ := hLoaded.waiting
  rw [renderParent_eq_lending, renderParent_eq_lending, result_bind, result_bind]
  cases hTemplate : (env.loadNamed parent).result context with
  | error error => rfl
  | ok template =>
      obtain ⟨text, hName, hLoad⟩ := load_of_loadNamed hTemplate
      have hNodes : Node.Everywhere (env.Loads start) (Node.OtherThan name)
          template.nodes :=
        hParent.of_loaded rfl hName ((hContext.shelf text).symm.trans hLoad)
      show (lending _ _).result _ = (lending _ _).result _
      rw [result_lending, result_lending, hWaiting, Option.getD_some]
      cases hTaken : waiting.get? version.name with
      | some taken =>
          -- Neither version comes to wait, since the child has a block of its own for
          -- them.
          have hMerged : waiting.merge blocks = waiting.merge blocks' := by
            refine Mapping.ext_get? fun key => ?_
            rw [Overrides.get?_merge, Overrides.get?_merge]
            by_cases hKey : key = version.name
            · rw [hKey, hTaken, Option.some_or, Option.some_or]
            · rw [hSame key hKey]
          rw [hMerged]
      | none =>
          have hInStep := (h _ hNodes.each).within (alongside_parted hFixed).opens
            (hKeeps _) (hKeeps _) Mapping.empty
          have hJoins : (env.parted start name reserved version version').Joins
              { (env.loadNamed parent).after
                context with overrides := some (waiting.merge blocks) }
              { (env.loadNamed parent).after
                context with overrides := some (waiting.merge blocks') } :=
            ⟨rfl, .inr ⟨_, _, rfl, rfl, hDiffer waiting hReserves hTaken⟩, rfl,
              hLoaded.shelf⟩
          exact ((hInStep _ _ hJoins).of_strict trivial fun _ => id).1.symm

/-- Where a block is reserved that does not mention what it replaces, derived templates
render alike that differ inside one of their blocks in the body that it replaces. -/
theorem result_renderLayered_of_differInside (hFixed : env.Unchanging)
    (hSilent : reserved.usesSuper = false) {first second : List Node}
    (h : Node.DifferInside (env.Loads start) name first second)
    (hContext : env.Reserves start name reserved context) (layers : Nat) :
    (env.renderLayered layers first).result context =
      (env.renderLayered layers second).result context := by
  induction h generalizing context with
  | behind hNode _ ih =>
      exact result_renderLayered_cons_of_eq
        _ (ih (hContext.after_renderLayered hFixed hNode layers))
  | brought hParent hVersions hFirst hSecond hSame hOthers =>
      have hDiffer :=
        fun (waiting : Overrides)
          (hReserves : waiting.Reserves (env.Loads start) name reserved) hFree =>
        Overrides.DifferIn.of_reserves hReserves hFree hFirst hSecond hSame hOthers
      cases layers with
      | zero =>
          rw [renderLayered, renderNodes_singleton, renderNodes_singleton, renderNode,
            renderNode]
          exact result_renderParent_eq_of_differIn hFixed (fun _ _ => .throw _)
            (fun _ => keeps_throw False _) hParent hSame hDiffer hContext
      | succ layers =>
          rw [renderLayered, renderNodes_singleton, renderNodes_singleton, renderNode,
            renderNode]
          exact result_renderParent_eq_of_differIn hFixed
            (inStep_renderLayered_parted hFixed hSilent hVersions layers)
            (fun nodes => (env.keeps_renderLayered layers nodes).loosen) hParent hSame
            hDiffer hContext

end Environment

end TextTemplate
