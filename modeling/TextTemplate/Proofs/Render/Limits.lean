import Mathlib
import TextTemplate.Proofs.Coupling.Steady

/-!
# Limits are only guards

Two limits keep a rendering from using up what it runs on: one on how many scopes may be
open, one on how long a range may be. Nothing in a template depends on them but whether
it fails for the sake of a limit. So a template that renders goes on to render to the
same text when the limits are raised, and one that fails for any other reason goes on to
fail for that reason. No tag swallows an error, and what is rendered in a layer below
comes to the same with more layers.

## Main results

* `Environment.renderTemplate_of_limits` — with larger limits a template renders to the
  same text, or fails with the same error.
-/

namespace TextTemplate

variable {σ : Type}

/-- Whether a limit has been hit. -/
def Error.isLimit : Error → Bool
  | tooDeep _ => true
  | rangeTooLarge _ _ _ => true
  | _ => false

namespace Environment

variable {env : Environment σ}

/-- If the loader is fixed, a template that renders to a text renders to the same text
when the limits on the depth of scopes and on the length of ranges are raised, and a
template that fails with any other error than one for the sake of a limit fails with the
very same error, whenever it is rendered again and from any shelf from which all names
load alike. Neither the template nor what it leads to contains a tag of the
application's own or, if the times differ, the current time. -/
theorem renderTemplate_of_limits (hFixed : env.Unchanging) {maxDepth maxRange : Nat}
    (hDepth : env.maxDepth ≤ maxDepth) (hRange : env.maxRange ≤ maxRange)
    (later : Moment) {shelf other : Shelf σ} (hShelves : env.LoadsAlike shelf other)
    {template : Template}
    (hNodes : Node.Everywhere (env.Loads shelf)
      (Node.Steady (later = env.clock)) template.nodes) (data : Mapping Value) :
    let larger : Environment σ := { env with maxDepth, maxRange, clock := later }
    (∀ text, (env.renderTemplate template data).result shelf = .ok text →
      (larger.renderTemplate template data).result other = .ok text) ∧
    (∀ error, (env.renderTemplate template data).result shelf = .error error →
      error.isLimit = false →
      (larger.renderTemplate template data).result other = .error error) := by
  intro larger
  let coupling := env.steadily shelf (later = env.clock) Scopes.Above
    (·.isLimit = true) False
  have hTandem : Tandem coupling env larger _ _ :=
    tandem_steadily hFixed maxDepth maxRange later id
    (opens_above _ _ rfl hDepth) (fun _ _ h => h.1) (.inr ⟨hRange, fun _ _ => rfl⟩)
  have hJoins : coupling.Joins ⟨[data], none, shelf⟩ ⟨[data], none, other⟩ :=
    ⟨⟨.refl _, Nat.le_refl _⟩, ⟨rfl, fun _ _ h => by cases h⟩, .refl _, hShelves.symm⟩
  have hRun := hTandem.inStep_render (.inr ⟨hDepth, rfl⟩) hNodes.each _ _ hJoins
  rw [result_renderTemplate, result_renderTemplate]
  refine ⟨fun text hText => ?_, fun error hError hLimit => ?_⟩
  · rw [hText] at hRun
    exact hRun.1
  · rw [hError] at hRun
    rcases hRun with hExcused | hSame
    · exact Bool.noConfusion (hLimit.symm.trans hExcused)
    · exact hSame.1

/-- A loop over a range of two items includes a template in the last scope that may be
opened, and goes on to do the same when more and longer ranges would be allowed. -/
theorem renderTemplate_of_limits_of_loop :
    let loader : Loader Unit :=
  Loader.memory (Mapping.singleton "item" "\x7b\x7b a \x7d\x7d")
    let env : Environment Unit :=
      { loader := some loader, maxDepth := 3, maxRange := 2,
        clock := ⟨2024, 2, 29, 12, 0, 0, 0, 0⟩ }
    let larger : Environment Unit :=
      { env with maxDepth := 9, maxRange := 5, clock := ⟨2024, 3, 1, 12, 0, 0, 0, 0⟩ }
    let item : Template := ⟨some "item", [.output (.single ⟨"a", .path ["a"]⟩)]⟩
    let bound (number : Int64) : FilterChain := ⟨"", ⟨"", .literal (.int number)⟩, []⟩
    let template : Template :=
      ⟨none, [.loop ["n"] (.between ⟨bound 1, bound 2⟩) none
        [.embed (Variable.ofString "'item'") none] []]⟩
    let shelf : Shelf Unit := ⟨Mapping.singleton "item" item, ()⟩
    let data : Mapping Value := Mapping.singleton "a" (.string "x")
    (env.renderTemplate template data).result shelf = .ok "xx" ∧
      (larger.renderTemplate template data).result shelf = .ok "xx" := by
  intro loader env larger item bound template shelf data
  have hFixed : env.Unchanging := by
    rintro _ ⟨⟩
    exact (Loader.coherent_memory _).fixed
  have hDepth : env.maxDepth ≤ larger.maxDepth := by decide
  have hRange : env.maxRange ≤ larger.maxRange := by decide
  have hNodes : Node.Everywhere (env.Loads shelf)
      (Node.Steady (larger.clock = env.clock)) template.nodes := by
    refine .of_loadable ?_ (fun name found hLoad => ?_) fun _ => id
    · simp [template, Node.All, Node.partsOf, Node.parts, Node.Steady]
    · rw [eq_of_load_singleton rfl rfl hLoad]
      simp [item, Node.All, Node.partsOf, Node.parts, Node.Steady]
  have hText : (env.renderTemplate template data).result shelf = .ok "xx" := by cbv
  exact ⟨hText,
    (renderTemplate_of_limits hFixed hDepth hRange _ (.refl _) hNodes data).1 _ hText⟩

end Environment

end TextTemplate
