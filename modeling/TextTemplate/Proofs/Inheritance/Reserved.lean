import TextTemplate.Proofs.Coupling.Steady

/-!
# Blocks that keep waiting

A block of a derived template waits until the first block of its name is rendered, and
takes the place of that one only. So it goes on to wait while nodes are rendered from
which no block of its name can be reached, as long as none can be reached either from
the other blocks that wait, since these may take the place of blocks that the nodes
contain. Such a block is called reserved here. That a rendering keeps a block reserved
is shown by putting the rendering beside itself, with the reservation as what the two
have in common.

## Main definitions

* `Node.OtherThan` — nodes that are no block of a name.
* `Environment.Reserves` — a block waits for a name, and no other block that waits leads
  to one of that name.

## Main results

* `Environment.Reserves.after_renderLayered` — nodes that come to no block of the name
  leave it waiting.
-/

namespace TextTemplate

variable {σ α : Type}

/-- A node that is no block of a name. -/
def Node.OtherThan (name : String) : Node → Prop
  | .block region => region.name ≠ name
  | _ => True

/-- Nodes that lead nowhere come to the nodes of their own trees only. -/
theorem Node.Everywhere.of_plain {loads : String → Template → Prop}
    {property : Node → Prop} {nodes : List Node}
    (hAlone : ∀ part ∈ Node.partsOf nodes, part.leadsOut = false)
    (hNodes : Node.All property nodes) : Node.Everywhere loads property nodes := by
  intro node hReaches
  have hPart : node ∈ Node.partsOf nodes := by
    induction hReaches with
    | inside h => exact h
    | @loaded node _ _ _ _ _ _ hOperand _ _ _ ih =>
        have hNot := hAlone node ih
        cases node <;> cases hOperand <;> cases hNot
    | rendered _ _ _ ih => cases hAlone _ ih
  exact hNodes node hPart

/-! ## Reserved blocks -/

/-- A block waits for a name, and no block of that name is reached from the other blocks
that wait. -/
structure Overrides.Reserves (waiting : Overrides) (loads : String → Template → Prop)
    (name : String) (reserved : Block Node) : Prop where
  waits : waiting.get? name = some reserved
  others {other : String} {block : Block Node} (hOther : other ≠ name)
    (h : waiting.get? other = some block) :
      Node.Everywhere loads (Node.OtherThan name) [.block block]

namespace Overrides.Reserves

variable {waiting : Overrides} {loads : String → Template → Prop} {name : String}
  {reserved : Block Node}

/-- Another block may be taken. -/
theorem erase (h : waiting.Reserves loads name reserved) {other : String}
    (hOther : other ≠ name) :
    Overrides.Reserves (Mapping.erase waiting other) loads name reserved where
  waits := by rw [Mapping.get?_erase, if_neg hOther, h.waits]
  others := by
    intro key block hKey hBlock
    exact h.others hKey (Mapping.get?_of_erase hBlock).1

/-- Further blocks may come to wait. -/
theorem merge (h : waiting.Reserves loads name reserved)
    {blocks : List (String × Block Node)}
    (hBlocks : ∀ key block, (key, block) ∈ blocks →
      Node.Everywhere loads (Node.OtherThan name) [.block block]) :
    Overrides.Reserves (waiting.merge blocks) loads name reserved where
  waits := by rw [get?_merge, h.waits, Option.some_or]
  others := by
    intro key block hKey hBlock
    rcases get?_of_merge hBlock with hBefore | hNew
    · exact h.others hKey hBefore
    · exact hBlocks key block (Entries.mem_of_get?_eq_some hNew)

end Overrides.Reserves

namespace Environment

open Coupling Render

/-- A block is reserved in a context from which names load as they do from a shelf at
the start. -/
structure Reserves (env : Environment σ) (start : Shelf σ) (name : String)
    (reserved : Block Node) (context : Context σ) : Prop where
  waiting : ∃ waiting, context.overrides = some waiting ∧
    waiting.Reserves (env.Loads start) name reserved
  shelf : env.LoadsAlike context.shelf start

/-- The coupling of two renderings that differ in the blocks that wait at most, and for
which names load as they do from a shelf at the start. -/
def sameButBlocks (env : Environment σ) (start : Shelf σ)
    (overrides : Option Overrides → Option Overrides → Prop) : Coupling σ where
  scopes := Eq
  overrides := overrides
  shelves first second := first = second ∧ env.LoadsAlike first start
  excused _ := False
  lasting := True

/-- With a fixed loader such renderings are in step where blocks are, if blocks that are
lent on either side belong together. -/
theorem alongside_sameButBlocks {env : Environment σ} (hFixed : env.Unchanging)
    {start : Shelf σ} {overrides : Option Overrides → Option Overrides → Prop}
    {property : Node → Prop}
    (hLend : ∀ {parent blocks first second},
      Node.Everywhere (env.Loads start) property [.inherit parent blocks] →
        overrides first second →
        overrides (some ((first.getD Mapping.empty).merge blocks))
          (some ((second.getD Mapping.empty).merge blocks)) ∧
            first.isNone = second.isNone) :
    Alongside (env.sameButBlocks start overrides) env env
      (fun node => Node.Everywhere (env.Loads start) property [node])
      (Node.All fun node => Node.Everywhere (env.Loads start) property [node]) where
  opens := {
    push scope h := congrArg (scope :: ·) h
    room h hRoom := h ▸ hRoom
    full h hFull := .inr ⟨rfl, h ▸ hFull⟩ }
  alike h := h ▸ .refl _
  range := .inl rfl
  lend hFits _ _ h := hLend hFits h
  load := by
    rintro name first _ ⟨rfl, hShelf⟩
    exact .of_eq rfl ⟨rfl, (LoadsAlike.after_load hFixed first name).trans hShelf⟩
  loaded := by
    rintro node hFits operand hOperand scopes name hName first _ ⟨rfl,
      hShelf⟩ template hLoad
    exact (hFits.of_loaded hOperand hName ((hShelf name).symm.trans hLoad)).each
  clock _ := rfl
  custom hFits :=
    ⟨⟨trivial, fun _ => id, fun _ _ => Iff.rfl⟩,
      fun _ hBody => (hFits.of_rendered hBody).each⟩

/-- The coupling of a rendering for which a block is reserved with itself. -/
def reserving (env : Environment σ) (start : Shelf σ) (name : String)
    (reserved : Block Node) : Coupling σ :=
  env.sameButBlocks start fun first second =>
    first = second ∧ ∃ waiting, first = some waiting ∧
      waiting.Reserves (env.Loads start) name reserved

variable {env : Environment σ} {start : Shelf σ} {name : String} {reserved : Block Node}
  {context : Context σ}

/-- The coupling is in step on nodes from which no block of the name can be reached. -/
theorem tandem_reserving (hFixed : env.Unchanging) :
    Tandem (env.reserving start name reserved) env env
      (fun node => Node.Everywhere (env.Loads start) (Node.OtherThan name) [node])
      (Node.All fun node => Node.Everywhere (env.Loads start)
        (Node.OtherThan name) [node]) where
  toAlongside := by
    refine alongside_sameButBlocks hFixed ?_
    rintro parent blocks _ _ hFits ⟨rfl, waiting, rfl, hReserves⟩
    exact ⟨⟨rfl, _, rfl, hReserves.merge fun _ _ => hFits.of_block⟩, rfl⟩
  waiting h name := by rw [h.1]
  erase := by
    rintro block hFits _ _ ⟨rfl, waiting, rfl, hReserves⟩
    exact ⟨rfl, _, rfl, hReserves.erase hFits.self⟩
  waits := by
    rintro block replacement hFits _ _ ⟨rfl, waiting, rfl, hReserves⟩ hWaits
    exact (hReserves.others hFits.self hWaits).each

namespace Reserves

theorem waiting?_eq (h : env.Reserves start name reserved context) :
    context.waiting? name = some reserved := by
  obtain ⟨waiting, hWaiting, hReserves⟩ := h.waiting
  rw [Context.waiting?, hWaiting]
  exact hReserves.waits

/-- What is in step with itself keeps a block reserved. -/
theorem after_of_inStep (h : env.Reserves start name reserved context)
    {computation : Render σ α}
    (hInStep : (env.reserving start name reserved).InStep computation computation) :
    env.Reserves start name reserved (computation.after context) := by
  have hJoins : (env.reserving start name reserved).Joins context context :=
    ⟨rfl, ⟨rfl, h.waiting⟩, rfl, h.shelf⟩
  have hLeft := ((hInStep context context hJoins).of_strict trivial fun _ => id).2
  exact ⟨hLeft.overrides.2, hLeft.shelves.2⟩

/-- A block goes on to wait while nodes are rendered from which no block of its name can
be reached. -/
theorem after_renderLayered (h : env.Reserves start name reserved context)
    (hFixed : env.Unchanging) {nodes : List Node}
    (hNodes : Node.Everywhere (env.Loads start) (Node.OtherThan name) nodes)
    (layers : Nat) :
    env.Reserves start name reserved ((env.renderLayered layers nodes).after context) :=
  h.after_of_inStep
    ((tandem_reserving hFixed).inStep_renderLayered 0 (.inl ⟨rfl, rfl⟩) layers
      nodes hNodes.each)

theorem push (h : env.Reserves start name reserved context) (scope : Scope) :
    env.Reserves start name reserved (context.push scope) :=
  ⟨h.waiting, h.shelf⟩

/-- Another block may be taken. -/
theorem took (h : env.Reserves start name reserved context) {other : String}
    (hOther : other ≠ name) :
    env.Reserves start name reserved (context.took other) := by
  obtain ⟨⟨waiting, hWaiting, hReserves⟩, hShelf⟩ := h
  refine ⟨⟨Mapping.erase waiting other, ?_, hReserves.erase hOther⟩, hShelf⟩
  rw [Context.took, hWaiting]
  rfl

end Reserves

end Environment

end TextTemplate
