import TextTemplate.Environment

/-!
# Loaders that always answer the same

What a loader draws from may change between two requests. Statements about several
templates that belong together need one that does not: a loader that serves a name with
one source, whatever happened before. The shelf fits such a loader if the templates on
it are what the served sources parse to. An empty shelf fits, and a shelf that fits
still does after a served name has been loaded.

## Main results

* `Environment.load_served` — a served name loads, and gives what its source parses to.
-/

namespace TextTemplate

variable {σ : Type}

/-- The loader answers a name with one and the same source in every state. -/
def Loader.Serves (loader : Loader σ) (name source : String) : Prop :=
  ∀ state, ∃ after, loader.load name state = .ok source after

namespace Environment

variable (env : Environment σ) (loader : Loader σ)

/-- The templates on the shelf are what the sources that the loader serves parse to. -/
def Fits (shelf : Shelf σ) : Prop :=
  ∀ name template source, shelf.templates.get? name = some template →
    loader.Serves name source → env.parse source = .ok template.nodes

variable {env} {loader}

/-- An empty shelf fits every loader. -/
theorem fits_empty (source : σ) : env.Fits loader ⟨Mapping.empty, source⟩ := by
  intro name template source h
  cases h

/-- A shelf still fits with the template of a served source on it. -/
theorem Fits.insert {shelf : Shelf σ} (hFits : env.Fits loader shelf)
    {name source : String} (hServes : loader.Serves name source) {template : Template}
    (hParse : env.parse source = .ok template.nodes) (state : σ) :
    env.Fits loader ⟨shelf.templates.insert name template, state⟩ := by
  intro other found answer hFound hOther
  rw [Mapping.get?_insert] at hFound
  split at hFound
  · rename_i hName
    subst hName
    cases hFound
    obtain ⟨_, hFirst⟩ := hServes state
    obtain ⟨_, hSecond⟩ := hOther state
    rw [hFirst] at hSecond
    cases hSecond
    exact hParse
  · exact hFits other found answer hFound hOther

/-- A name that stands on the shelf is not asked for. -/
theorem load_of_kept {shelf : Shelf σ} {name : String} {template : Template}
    (h : env.kept? name shelf = .ok (some template) shelf) :
    env.load name shelf = .ok template shelf := by
  simp only [load, bind, EStateM.bind, h]
  rfl

/-- A name that does not stand there is asked for and parsed. -/
private theorem load_of_not_kept (hLoader : env.loader = some loader) {shelf : Shelf σ}
    {name source : String} {state : σ} (h : env.kept? name shelf = .ok none shelf)
    (hAnswer : loader.load name shelf.source = .ok source state) :
    env.load name shelf = env.store name source { shelf with source := state } := by
  simp only [load, bind, EStateM.bind, h, requireLoader, hLoader, pure, EStateM.pure,
    Session.ofSource, hAnswer]

/-- Storing the source of a template that parses keeps a shelf that fits. -/
private theorem store_served {shelf : Shelf σ} (hFits : env.Fits loader shelf)
    {name source : String} (hServes : loader.Serves name source) {nodes : List Node}
    (hParse : env.parse source = .ok nodes) :
    ∃ after, env.store name source shelf = .ok ⟨some name, nodes⟩ after ∧
      env.Fits loader after := by
  cases hKeeps : env.keepsTemplates with
  | true =>
      refine ⟨⟨shelf.templates.insert name ⟨some name, nodes⟩, shelf.source⟩, ?_, ?_⟩
      · simp only [store, bind, EStateM.bind, Session.ofExcept, hParse, keep, hKeeps,
          if_true]
        rfl
      · exact hFits.insert hServes hParse shelf.source
  | false =>
      refine ⟨shelf, ?_, hFits⟩
      simp only [store, bind, EStateM.bind, Session.ofExcept, hParse, keep, hKeeps,
        Bool.false_eq_true, if_false]
      rfl

/-- A name that the loader serves loads, with the nodes that its source parses to, and
leaves a shelf that fits. -/
theorem load_served (hLoader : env.loader = some loader) {shelf : Shelf σ}
    (hFits : env.Fits loader shelf) {name source : String}
    (hServes : loader.Serves name source) {nodes : List Node}
    (hParse : env.parse source = .ok nodes) :
    ∃ template after, env.load name shelf = .ok template after ∧
      template.nodes = nodes ∧
      env.Fits loader after := by
  cases hKept : (if env.keepsTemplates then shelf.templates.get? name else none) with
  | some template =>
      have hFound : shelf.templates.get? name = some template := by
        split at hKept
        · exact hKept
        · cases hKept
      have hNodes := hFits name template source hFound hServes
      rw [hParse] at hNodes
      cases hNodes
      exact ⟨template, shelf, load_of_kept (by rw [kept?, hKept]), rfl, hFits⟩
  | none =>
      obtain ⟨state, hAnswer⟩ := hServes shelf.source
      have hStore : env.Fits loader { shelf with source := state } := hFits
      obtain ⟨after, hStored, hAfter⟩ := store_served hStore hServes hParse
      refine ⟨⟨some name, nodes⟩, after, ?_, rfl, hAfter⟩
      rw [load_of_not_kept hLoader (by rw [kept?, hKept]) hAnswer, hStored]

end Environment

end TextTemplate
