import TextTemplate.Proofs.Coupling.Reach

/-!
# Renderings with a fixed loader

With a fixed loader it makes no difference how much has been loaded already: two
renderings come to the same templates, also when they have different limits, run at
different times or have different scopes open. They are in step on nodes that are
steady, which the application's own tags are not, since these can see the scopes
themselves, nor is the current time, unless the clock stands still. What remains to be
said of two such renderings is how their scopes belong together: they show the same, and
they are equally many, or the second rendering has at least as much room for more.

Where only the shelves differ, and load alike, there is nothing that any tag could
tell apart.

## Main definitions

* `Node.Steady`, `Scopes.Level`, `Scopes.Above`.
* `Environment.steadily` — the coupling of renderings with a fixed loader.
* `Environment.SameFor` — contexts that differ in what has been loaded already.

## Main results

* `Environment.tandem_steadily` — such renderings are in step on steady nodes.
* `Environment.SameFor.renderLayered` — how much has been loaded already makes no
  difference to any nodes.
-/

namespace TextTemplate

variable {σ : Type}

/-- A node that renders by its tree, its operands and the templates it names alone: no
tag of the application's own, nor the current time, unless the clock stands still. -/
def Node.Steady (still : Prop) : Node → Prop
  | .custom _ => False
  | .now _ => still
  | _ => True

/-! ## Scopes -/

/-- Two stacks of the same number of scopes that show the same value for every name. -/
def Scopes.Level (first second : Scopes) : Prop :=
  first.Alike second ∧ first.length = second.length

/-- Two stacks of scopes that show the same, of which the second one leaves as much room
for more. -/
def Scopes.Above (first second : Scopes) : Prop :=
  first.Alike second ∧ second.length ≤ first.length

namespace Environment

open Coupling Render

/-- The environment with other limits and at another time. -/
def adjusted (env : Environment σ) (maxDepth maxRange : Nat) (clock : Moment) :
    Environment σ :=
  { env with maxDepth, maxRange, clock }

/-- The coupling of two renderings for which all names load as they do from a shelf at
the start. -/
def steadily (env : Environment σ) (start : Shelf σ) (still : Prop)
    (scopes : Scopes → Scopes → Prop) (excused : Error → Prop) (lasting : Prop) :
    Coupling σ :=
  sharing (env.Loads start) (Node.Steady still) scopes
    (fun first second => env.LoadsAlike first start ∧
      env.LoadsAlike second start) excused lasting

variable {env : Environment σ} {start : Shelf σ} {still : Prop}

theorem opens_level (excused : Error → Prop) (lasting : Prop) (limit : Nat) :
    (env.steadily start still Scopes.Level excused lasting).Opens limit limit where
  push scope h := ⟨h.1.push scope, congrArg (· + 1) h.2⟩
  room h hRoom := h.2 ▸ hRoom
  full h hFull := .inr ⟨rfl, h.2 ▸ hFull⟩

theorem opens_above (excused : Error → Prop) (lasting : Prop) {limit larger : Nat}
    (hExcused : excused (.tooDeep limit)) (h : limit ≤ larger) :
    (env.steadily start still Scopes.Above excused lasting).Opens limit larger where
  push scope hScopes := ⟨hScopes.1.push scope, Nat.succ_le_succ hScopes.2⟩
  room hScopes hRoom := Nat.le_trans hScopes.2 (Nat.le_trans hRoom h)
  full _ _ := .inl hExcused

/-- With a fixed loader, two renderings are in step on nodes from which only steady ones
are reached. -/
theorem tandem_steadily {scopes : Scopes → Scopes → Prop} {excused : Error → Prop}
    {lasting : Prop} (hFixed : env.Unchanging) (maxDepth maxRange : Nat)
    (clock : Moment) (hStill : still → clock = env.clock)
    (hOpens : (env.steadily start still scopes excused lasting).Opens
      env.maxDepth maxDepth)
    (hAlike : ∀ first second, scopes first second → first.Alike second)
    (hRange : maxRange = env.maxRange ∨ env.maxRange ≤ maxRange ∧
      ∀ lower upper, excused (.rangeTooLarge lower upper env.maxRange)) :
    Tandem (env.steadily start still scopes excused lasting) env
      (env.adjusted maxDepth maxRange clock)
      (fun node => Node.Everywhere (env.Loads start) (Node.Steady still) [node])
      (Node.All fun node => Node.Everywhere (env.Loads start)
        (Node.Steady still) [node]) := by
  refine tandem_sharing hOpens hAlike hRange (fun name first second h => ⟨?_, ?_, ?_⟩)
    (fun name first second template h hLoad => ?_) (fun _ => hStill) fun _ => False.elim
  · exact (h.2.trans h.1.symm) name
  · exact (LoadsAlike.after_load hFixed first name).trans h.1
  · exact (LoadsAlike.after_load hFixed second name).trans h.2
  · exact (h.1 name).symm.trans hLoad

/-! ## What has been loaded already -/

/-- Two contexts are the same to the environment: they differ in their shelves at most,
and these load alike. -/
structure SameFor (env : Environment σ) (first second : Context σ) : Prop where
  scopes : first.scopes = second.scopes
  overrides : first.overrides = second.overrides
  shelves : env.LoadsAlike first.shelf second.shelf

namespace SameFor

variable {first second : Context σ}

theorem push (h : env.SameFor first second) (scope : Scope) :
    env.SameFor (first.push scope) (second.push scope) :=
  ⟨congrArg (scope :: ·) h.scopes, h.overrides, h.shelves⟩

theorem pop (h : env.SameFor first second) : env.SameFor first.pop second.pop :=
  ⟨congrArg List.tail h.scopes, h.overrides, h.shelves⟩

/-- With a fixed loader a context is the same after something was loaded. -/
theorem of_load (hFixed : env.Unchanging) (context : Context σ) (name : String) :
    env.SameFor { context with shelf := (env.load name).after context.shelf } context :=
  ⟨rfl, rfl, .after_load hFixed context.shelf name⟩

/-- With a fixed loader any nodes render alike in contexts that are the same, and leave
contexts that are. -/
theorem renderLayered (hFixed : env.Unchanging) (h : env.SameFor first second)
    (layers : Nat) (nodes : List Node) :
    (env.renderLayered layers nodes).result first =
      (env.renderLayered layers nodes).result second ∧
      env.SameFor ((env.renderLayered layers nodes).after first)
        ((env.renderLayered layers nodes).after second) := by
  let coupling : Coupling σ :=
    sharing (fun _ _ => True) (fun _ => True) Eq env.LoadsAlike (fun _ => False) True
  have hLoad : ∀ name left right, env.LoadsAlike left right →
      (env.load name).result right = (env.load name).result left ∧
        env.LoadsAlike ((env.load name).after left) ((env.load name).after right) := by
    intro name left right hAlike
    refine ⟨(hAlike name).symm, ?_⟩
    exact ((LoadsAlike.after_load hFixed left name).trans hAlike).trans
      (LoadsAlike.after_load hFixed right name).symm
  have hTandem : Tandem coupling env env _ _ :=
    tandem_sharing (opens_sharing env.maxDepth)
    (fun _ _ hScopes => hScopes ▸ .refl _) (.inl rfl) hLoad (fun _ _ _ _ _ _ => trivial)
    (fun _ _ => rfl) fun _ _ => exact_sharing
  have hJoins : coupling.Joins first second :=
    ⟨h.scopes, ⟨h.overrides.symm, fun _ _ _ => .of_forall fun _ => trivial⟩, h.shelves⟩
  have hRun := hTandem.inStep_renderLayered 0 (.inl ⟨rfl, rfl⟩) layers nodes
    fun _ _ => .of_forall fun _ => trivial
  obtain ⟨hResult, hLeft⟩ := (hRun _ _ hJoins).of_strict trivial fun _ => id
  exact ⟨hResult.symm, hLeft.scopes, hLeft.overrides.1.symm, hLeft.shelves⟩

/-- They do so in a scope of their own. -/
theorem within (hFixed : env.Unchanging) (h : env.SameFor first second) (scope : Scope)
    (layers : Nat) (nodes : List Node) :
    (env.within scope (env.renderLayered layers nodes)).result first =
        (env.within scope (env.renderLayered layers nodes)).result second ∧
      env.SameFor ((env.within scope (env.renderLayered layers nodes)).after first)
        ((env.within scope (env.renderLayered layers nodes)).after second) := by
  obtain ⟨hResult, hAfter⟩ := (h.push scope).renderLayered hFixed layers nodes
  rw [Environment.within, result_within, result_within, after_within, after_within,
    h.scopes]
  split
  · exact ⟨rfl, h⟩
  · exact ⟨hResult, hAfter.pop⟩

end SameFor

end Environment

end TextTemplate
