import Mathlib.Data.List.Forall2
import TextTemplate.Proofs.Coupling.Steady

/-!
# Keeping templates cannot be noticed

An application loads templates and renders them, one operation after the other, and what
one operation has put on the shelf the next one takes from there. With a coherent loader
nobody can tell: an environment that keeps the templates it has loaded answers every
operation as one does that asks its loader every time.

The invariant is that all names load from the shelf as they would from an empty one.
Loading preserves it, and so does rendering, at whatever point it fails. The two
environments go through a sequence of operations at times of their own; a template that
shows the time has to be rendered at the same time by both.

## Main definitions

* `Operation`, `Answer`, `Environment.answers`.

## Main results

* `Environment.perform_kept` — one operation.
* `Environment.answers_of_kept` — any number of operations.
-/

namespace TextTemplate

variable {σ : Type}

/-! ## Operations -/

/-- Something that an application does with an environment. -/
inductive Operation (σ : Type) where
  /-- Loads a template. -/
  | load (name : String)
  /-- Loads the first of several templates that can be found. -/
  | loadFirst (names : List String)
  /-- Loads a template and renders it. -/
  | renderNamed (name : String) (data : Mapping Value)
  /-- Parses a source and renders it. -/
  | renderText (source : String) (data : Mapping Value)
  /-- Takes all templates off the shelf. -/
  | clear
  /-- Changes what the loader draws from. -/
  | alter (change : σ → σ)

/-- What an operation gives. -/
inductive Answer where
  | template (outcome : Except Error Template)
  | text (outcome : Except Error String)
  | done

namespace Environment

/-- The answer to an operation, and the shelf afterwards. -/
def perform (env : Environment σ) (shelf : Shelf σ) : Operation σ → Answer × Shelf σ
  | .load name =>
    (.template ((env.load name).result shelf), (env.load name).after shelf)
  | .loadFirst names =>
    (.template ((env.loadFirst names).result shelf), (env.loadFirst names).after shelf)
  | .renderNamed name data =>
    (.text ((env.renderNamed name data).result shelf),
      (env.renderNamed name data).after shelf)
  | .renderText source data =>
    (.text ((env.renderText source data).result shelf),
      (env.renderText source data).after shelf)
  | .clear => (.done, Session.clear.after shelf)
  | .alter change => (.done, { shelf with source := change shelf.source })

/-- The answers to operations, one after the other, each at some time. -/
def answers (env : Environment σ) (shelf : Shelf σ) :
    List (Operation σ × Moment) → List Answer
  | [] => []
  | (operation, time) :: rest =>
    let step := { env with clock := time }.perform shelf operation
    step.1 :: answers env step.2 rest

end Environment

/-- A node that does not show the time, unless the clock stands still. -/
def Node.Timeless (still : Prop) : Node → Prop
  | .now _ => still
  | _ => True

theorem Node.Steady.timeless {still : Prop} {node : Node} (h : node.Steady still) :
    node.Timeless still := by
  cases node with
  | now format => exact h
  | _ => trivial

/-- What an operation renders does not show the time anywhere, unless the clock
stands still. -/
def Operation.Timeless (env : Environment σ) (shelf : Shelf σ) (still : Prop) :
    Operation σ → Prop
  | .renderNamed name _ => ∀ template, env.Loads shelf name template →
    Node.Everywhere (env.Loads shelf) (Node.Timeless still) template.nodes
  | .renderText source _ => ∀ nodes, env.parse source = .ok nodes →
    Node.Everywhere (env.Loads shelf) (Node.Timeless still) nodes
  | _ => True

namespace Environment

open Coupling Session

variable {env : Environment σ} {fresh : σ}

/-! ## Sound shelves -/

/-- All names load from the shelf as they would from an empty one. -/
def Sound (env : Environment σ) (fresh : σ) (shelf : Shelf σ) : Prop :=
  env.LoadsAlike shelf ⟨Mapping.empty, fresh⟩

namespace Sound

variable (hCoherent : env.Coherent)

include hCoherent

/-- An empty shelf is sound. -/
theorem empty (source : σ) : env.Sound fresh ⟨Mapping.empty, source⟩ := by
  intro name
  rw [result_load_empty, result_load_empty,
    hCoherent.unchanging.fetched_eq name source fresh]

variable {shelf : Shelf σ} (h : env.Sound fresh shelf)

include h

/-- From a sound shelf every name loads as what is fetched. -/
theorem result_load (name : String) (state : σ) :
    (env.load name).result shelf = env.fetched name state := by
  rw [h name, result_load_empty, hCoherent.unchanging.fetched_eq name fresh state]

/-- The first of several names loads as what its source is. If a template stands on the
shelf under the name that is found, it cannot be another one. -/
theorem result_loadFirst (names : List String) (state : σ) :
    (env.loadFirst names).result shelf =
      env.found names state >>= fun pair => env.parsed pair.1 pair.2 := by
  rw [env.result_loadFirst, hCoherent.found_eq names shelf.source state]
  cases hFound : env.found names state with
  | error error => rfl
  | ok pair =>
      obtain ⟨name, source⟩ := pair
      have hLoad := h.result_load hCoherent name shelf.source
      rw [env.result_load, hCoherent.fetched_of_found hFound] at hLoad
      exact hLoad

theorem after_load (name : String) : env.Sound fresh ((env.load name).after shelf) :=
  (LoadsAlike.after_load hCoherent.unchanging shelf name).trans h

theorem after_loadFirst (names : List String) :
    env.Sound fresh ((env.loadFirst names).after shelf) := by
  have hLeft := env.standing?_after_loadFirst names shelf
  refine LoadsAlike.trans ?_ h
  cases hFound : env.found names shelf.source with
  | error error =>
      rw [hFound] at hLeft
      have hNothing : ∀ template : Template, Except.error error = .ok template →
          (env.load "").result shelf = .ok template := fun _ hOk => by cases hOk
      exact .of_standingWith hCoherent.unchanging hNothing hLeft
  | ok pair =>
      obtain ⟨name, source⟩ := pair
      rw [hFound] at hLeft
      refine .of_standingWith hCoherent.unchanging (fun template hOk => ?_) hLeft
      rw [h.result_loadFirst hCoherent names shelf.source, hFound] at hOk
      rw [h.result_load hCoherent name shelf.source, hCoherent.fetched_of_found hFound]
      exact hOk

/-- What a loader draws from may change, if its answers do not. -/
theorem alter (source : σ) : env.Sound fresh { shelf with source } := by
  intro name
  rw [← h name, env.result_load, env.result_load,
    hCoherent.unchanging.fetched_eq name source shelf.source]
  rfl

end Sound

/-! ## One environment that keeps templates and one that does not -/

/-- The environment, with templates kept. -/
def keeping (env : Environment σ) : Environment σ := { env with keepsTemplates := true }

/-- The environment, with templates loaded anew every time. -/
def reloading (env : Environment σ) : Environment σ :=
  { env with keepsTemplates := false }

section Steps

variable (hCoherent : env.Coherent)

include hCoherent

theorem coherent_keeping : env.keeping.Coherent := hCoherent

theorem coherent_reloading : env.reloading.Coherent := hCoherent

/-- If no templates are kept, it does not matter what stands on the shelf. -/
theorem sound_reloading (fresh : σ) (shelf : Shelf σ) :
    env.reloading.Sound fresh shelf := by
  intro name
  rw [result_load_empty, env.reloading.result_load]
  exact (coherent_reloading hCoherent).unchanging.fetched_eq name shelf.source fresh

variable {shelf : Shelf σ} (h : env.keeping.Sound fresh shelf)

include h

/-- Both environments load the same template. -/
theorem result_load_reloading (name : String) (other : Shelf σ) :
    (env.reloading.load name).result other = (env.keeping.load name).result shelf := by
  rw [(sound_reloading hCoherent fresh other).result_load
    (coherent_reloading hCoherent) name fresh,
    h.result_load (coherent_keeping hCoherent) name fresh]
  rfl

private theorem result_loadFirst_reloading (names : List String) (other : Shelf σ) :
    (env.reloading.loadFirst names).result other =
      (env.keeping.loadFirst names).result shelf := by
  rw [(sound_reloading hCoherent fresh other).result_loadFirst
    (coherent_reloading hCoherent) names fresh,
    h.result_loadFirst (coherent_keeping hCoherent) names fresh]
  rfl

/-- Both environments render a template to the same, at times that may differ if it does
not show the time. -/
private theorem renderTemplate_reloading {time time' : Moment} {template : Template}
    (hNodes : Node.Everywhere (env.Loads ⟨Mapping.empty, fresh⟩)
      (Node.Timeless (time' = time))
      template.nodes) (data : Mapping Value) (other : Shelf σ) :
    let kept : Environment σ := { env.keeping with clock := time }
    let loaded : Environment σ := { env.reloading with clock := time' }
    (loaded.renderTemplate template data).result other =
      (kept.renderTemplate template data).result shelf ∧
      env.keeping.Sound fresh ((kept.renderTemplate template data).after shelf) := by
  intro kept loaded
  let coupling : Coupling σ :=
    sharing (env.Loads ⟨Mapping.empty, fresh⟩) (Node.Timeless (time' = time))
    Eq (fun first _ => env.keeping.Sound fresh first) (fun _ => False) True
  have hLoad : ∀ name (first second : Shelf σ), env.keeping.Sound fresh first →
      (loaded.load name).result second = (kept.load name).result first ∧
        env.keeping.Sound fresh ((kept.load name).after first) :=
    fun name first second hFirst =>
      ⟨result_load_reloading hCoherent hFirst name second,
        hFirst.after_load (coherent_keeping hCoherent) name⟩
  have hLoads : ∀ name (first second : Shelf σ) found, env.keeping.Sound fresh first →
      (kept.load name).result first = .ok found →
        env.Loads ⟨Mapping.empty, fresh⟩ name found := by
    intro name first second found hFirst hFound
    rw [Loads, result_load_empty, ← hFound]
    exact (hFirst.result_load (coherent_keeping hCoherent) name fresh).symm
  have hTandem : Tandem coupling kept loaded _ _ :=
    tandem_sharing (opens_sharing env.maxDepth)
    (fun _ _ hScopes => hScopes ▸ .refl _) (.inl rfl) hLoad hLoads
    (fun _ hStill => hStill)
    fun _ _ => exact_sharing
  have hJoins : coupling.Joins ⟨[data], none, shelf⟩ ⟨[data], none, other⟩ :=
    ⟨rfl, ⟨rfl, fun _ _ hWaits => by cases hWaits⟩, h⟩
  have hRun := hTandem.inStep_render (.inl rfl) hNodes.each _ _ hJoins
  obtain ⟨hResult, hLeft⟩ := hRun.of_strict trivial fun _ => id
  rw [result_renderTemplate, result_renderTemplate, after_renderTemplate]
  exact ⟨hResult, hLeft.shelves⟩

/-- Both environments give the same answer to an operation, and the shelf of the one
that keeps templates is sound afterwards. -/
theorem perform_kept {operation : Operation σ} {time time' : Moment}
    (hTimeless : operation.Timeless env ⟨Mapping.empty, fresh⟩ (time' = time))
    (other : Shelf σ) :
    let kept : Environment σ := { env.keeping with clock := time }
    let loaded : Environment σ := { env.reloading with clock := time' }
    (loaded.perform other operation).1 = (kept.perform shelf operation).1 ∧
      env.keeping.Sound fresh (kept.perform shelf operation).2 := by
  intro kept loaded
  have hKeeping := coherent_keeping hCoherent
  cases operation with
  | load name =>
      have hResult := result_load_reloading hCoherent h name other
      exact ⟨congrArg Answer.template hResult, h.after_load hKeeping name⟩
  | loadFirst names =>
      have hResult := result_loadFirst_reloading hCoherent h names other
      exact ⟨congrArg Answer.template hResult, h.after_loadFirst hKeeping names⟩
  | renderNamed name data =>
      have hResult : (loaded.load name).result other = (kept.load name).result shelf :=
        result_load_reloading hCoherent h name other
      have hLeft : env.keeping.Sound fresh ((kept.load name).after shelf) :=
        h.after_load hKeeping name
      simp only [perform, renderNamed, result_bind, after_bind, hResult]
      cases hLoaded : (kept.load name).result shelf with
      | error error => exact ⟨rfl, hLeft⟩
      | ok template =>
          have hTemplate : env.Loads ⟨Mapping.empty, fresh⟩ name template := by
            rw [Loads, result_load_empty, ← hLoaded]
            exact (h.result_load hKeeping name fresh).symm
          obtain ⟨hText, hSound⟩ := renderTemplate_reloading hCoherent hLeft
            (hTimeless template hTemplate) data ((loaded.load name).after other)
          exact ⟨congrArg Answer.text hText, hSound⟩
  | renderText source data =>
      have hParse : loaded.parseTemplate source = kept.parseTemplate source := rfl
      simp only [perform, renderText, result_bind, after_bind, result_ofExcept,
        after_ofExcept, hParse]
      cases hNodes : env.parse source with
      | error error =>
          have hFails : kept.parseTemplate source = .error error :=
            congrArg (Except.map _) hNodes
          rw [hFails]
          exact ⟨rfl, h⟩
      | ok nodes =>
          have hTemplate : kept.parseTemplate source = .ok ⟨none, nodes⟩ :=
            congrArg (Except.map _) hNodes
          rw [hTemplate]
          have hEverywhere : Node.Everywhere (env.Loads ⟨Mapping.empty, fresh⟩)
              (Node.Timeless (time' = time)) (Template.mk none nodes).nodes :=
                hTimeless nodes hNodes
          obtain ⟨hText, hSound⟩ :=
            renderTemplate_reloading hCoherent h hEverywhere data other
          exact ⟨congrArg Answer.text hText, hSound⟩
  | clear => exact ⟨rfl, .empty hKeeping shelf.source⟩
  | alter change => exact ⟨rfl, h.alter hKeeping _⟩

end Steps

/-- With a coherent loader, an environment that keeps the templates it has loaded and
one that loads them anew every time give the same answers to the same operations,
however many and in whatever order, starting from empty shelves. Each of the two does
them at times of its own, except that an operation whose text shows the time is done at
the same time. -/
theorem answers_of_kept (hCoherent : env.Coherent) (fresh fresh' : σ)
    {steps steps' : List (Operation σ × Moment)}
    (hSteps : List.Forall₂ (fun step step' => step'.1 = step.1 ∧
      step.1.Timeless env ⟨Mapping.empty, fresh⟩ (step'.2 = step.2)) steps steps') :
    { env with keepsTemplates := false }.answers ⟨Mapping.empty, fresh'⟩ steps' =
      { env with keepsTemplates := true }.answers ⟨Mapping.empty, fresh⟩ steps := by
  suffices hShelves : ∀ shelf other : Shelf σ, env.keeping.Sound fresh shelf →
      env.reloading.answers other steps' = env.keeping.answers shelf steps from
    hShelves _ _ (.refl _)
  induction hSteps with
  | nil => exact fun _ _ _ => rfl
  | @cons step step' rest rest' hStep _ ih =>
      intro shelf other hSound
      obtain ⟨operation, time⟩ := step
      obtain ⟨operation', time'⟩ := step'
      obtain ⟨rfl, hTimeless⟩ := hStep
      obtain ⟨hAnswer, hLeft⟩ := perform_kept hCoherent hSound hTimeless other
      rw [answers, answers]
      exact congrArg₂ List.cons hAnswer (ih _ _ hLeft)

/-- A template is rendered, loaded, and after the shelf has been cleared found behind a
name that is missing. The second environment does all of this a day later. -/
theorem answers_of_kept_of_cleared :
    let loader : Loader Unit :=
  Loader.memory (Mapping.singleton "b" "\x7b\x7b x \x7d\x7d")
    let env : Environment Unit :=
      { loader := some loader, clock := ⟨2024, 2, 29, 12, 0, 0, 0, 0⟩ }
    let later : Moment := ⟨2024, 3, 1, 12, 0, 0, 0, 0⟩
    let operations : List (Operation Unit) :=
      [.renderNamed "b" (Mapping.singleton "x" (.string "1")), .load "b", .clear,
        .loadFirst ["c", "b"]]
    { env with keepsTemplates := false }.answers ⟨Mapping.empty, ()⟩
        (operations.map fun operation => (operation, later)) =
      { env with keepsTemplates := true }.answers ⟨Mapping.empty, ()⟩
        (operations.map fun operation => (operation, env.clock)) := by
  intro loader env later operations
  have hCoherent : env.Coherent := by
    rintro _ ⟨⟩
    exact Loader.coherent_memory _
  have hTokens : tokenize "\x7b\x7b x \x7d\x7d" = [.output "x"] := by cbv
  have hParse : env.parse "\x7b\x7b x \x7d\x7d" =
      .ok [.output (.filtered ⟨"x", Variable.ofString "x", []⟩)] := by
    rw [Environment.parse, Registry.parse, hTokens]
    rfl
  have hTimeless : ∀ operation ∈ operations,
      operation.Timeless env ⟨Mapping.empty, ()⟩ (later = env.clock) := by
    intro operation hMem
    have hLoads : ∀ name template, env.Loads ⟨Mapping.empty, ()⟩ name template →
        template.nodes = [.output (.filtered ⟨"x", Variable.ofString "x", []⟩)] := by
      intro name template hTemplate
      rw [Loads, result_load_empty, fetched_memory rfl, Mapping.singleton,
        Mapping.get?_insert] at hTemplate
      split at hTemplate
      · rename_i hFound
        split at hFound <;> cases hFound
        rw [parsed, hParse] at hTemplate
        cases hTemplate
        rfl
      · cases hTemplate
    have hAll : ∀ name template, env.Loads ⟨Mapping.empty, ()⟩ name template →
        Node.All (Node.Steady (later = env.clock)) template.nodes := by
      intro name template hTemplate
      rw [hLoads name template hTemplate]
      simp [Node.All, Node.parts, Node.Steady]
    cases operation with
    | renderNamed name data =>
        intro template hTemplate
        have hSteady : Node.Everywhere (env.Loads ⟨Mapping.empty, ()⟩)
            (Node.Steady (later = env.clock)) template.nodes :=
          .of_loadable (hAll name template hTemplate) hAll fun _ => id
        exact hSteady.mono fun _ => Node.Steady.timeless
    | renderText source data => simp [operations] at hMem
    | _ => trivial
  refine answers_of_kept hCoherent () () ?_
  rw [List.forall₂_map_left_iff, List.forall₂_map_right_iff, List.forall₂_same]
  exact fun operation hMem => ⟨rfl, hTimeless operation hMem⟩

end Environment

end TextTemplate
