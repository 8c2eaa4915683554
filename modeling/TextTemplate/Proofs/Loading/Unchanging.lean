import TextTemplate.Proofs.Loading.Answers

/-!
# Loaders that are fixed

A loader is fixed if its answer to a name does not depend on the state behind it. With a
fixed loader loading one name never changes what another name loads as, nor what the
same name loads as the next time, so that two shelves which load alike go on to do so
whatever is loaded from either of them. Templates in memory are such a loader; for
several names it answers by one of the names, with the source that it would give for
that name.

## Main results

* `Loader.coherent_memory` — templates in memory.
* `Environment.LoadsAlike.after_load` — with a fixed loader, loading cannot be noticed
  by loading.
-/

namespace TextTemplate

variable {σ : Type}

/-- The loader answers a name alike in all states. -/
def Loader.Fixed (loader : Loader σ) : Prop :=
  ∀ name first second, answer (loader.load name) first =
    answer (loader.load name) second

/-- The loader is fixed, for several names, too, and the source that it gives for the
first of them that it can find is the one that it gives for that name alone. -/
structure Loader.Coherent (loader : Loader σ) : Prop where
  fixed : loader.Fixed
  loadFirst (names : List String) (first second : σ) :
    answer (loader.loadFirst names) first = answer (loader.loadFirst names) second
  source {names : List String} {state : σ} {name source : String}
    (h : answer (loader.loadFirst names) state = .ok (name, source)) :
    answer (loader.load name) state = .ok source

namespace Loader

/-- The first of several names is looked for one by one. -/
theorem answer_firstLoaded_cons (load : String → EStateM Error σ String) (name : String)
    (rest : List String) (state : σ) :
    ∃ left, answer (firstLoaded load (name :: rest)) state =
      match answer (load name) state with
      | .ok source => .ok (some (name, source))
      | .error error =>
        if error.isNotFound then answer (firstLoaded load rest) left
          else .error error := by
  cases hLoad : load name state with
  | ok source left => exact ⟨left, by simp only [answer, firstLoaded, hLoad]⟩
  | error error left =>
      refine ⟨left, ?_⟩
      simp only [answer, firstLoaded, hLoad]
      cases error.isNotFound <;> rfl

/-- A loader that tries names one by one is as coherent as its answers to single names
are fixed. -/
theorem coherent_ofLoad (shown : String) {load : String → EStateM Error σ String}
    (h : ∀ name first second, answer (load name) first = answer (load name) second) :
    (ofLoad shown load).Coherent := by
  have hFirst : ∀ names first second,
      answer (firstLoaded load names) first =
        answer (firstLoaded load names) second := by
    intro names
    induction names with
    | nil => exact fun _ _ => rfl
    | cons name rest ih =>
        intro first second
        obtain ⟨left, hLeft⟩ := answer_firstLoaded_cons load name rest first
        obtain ⟨left', hLeft'⟩ := answer_firstLoaded_cons load name rest second
        rw [hLeft, hLeft', h name first second, ih left left']
  have hSource : ∀ names state name source,
      answer (firstLoaded load names) state = .ok (some (name, source)) →
        answer (load name) state = .ok source := by
    intro names
    induction names with
    | nil => intro state name source hFound; cases hFound
    | cons other rest ih =>
        intro state name source hFound
        obtain ⟨left, hLeft⟩ := answer_firstLoaded_cons load other rest state
        rw [hLeft] at hFound
        split at hFound
        · rename_i hAnswer
          cases hFound
          exact hAnswer
        · split at hFound
          · exact (h name state left).trans (ih left name source hFound)
          · cases hFound
  have hAnswer : ∀ names state, answer ((ofLoad shown load).loadFirst names) state =
      match answer (firstLoaded load names) state with
      | .ok (some found) => .ok found
      | .ok none => .error (.notFound names (some shown))
      | .error error => .error error := by
    intro names state
    unfold answer
    simp only [ofLoad, bind, EStateM.bind]
    cases firstLoaded load names state with
    | error error left => rfl
    | ok found left => cases found <;> rfl
  refine ⟨h, fun names first second => ?_, fun {names state name source} hFound => ?_⟩
  · rw [hAnswer, hAnswer, hFirst names first second]
  · rw [hAnswer] at hFound
    refine hSource names state name source ?_
    split at hFound <;> cases hFound
    assumption

/-- Templates in memory stay as they are. -/
theorem coherent_memory (templates : Mapping String) :
    (memory templates : Loader σ).Coherent := by
  refine coherent_ofLoad _ fun name first second => ?_
  unfold loadFrom
  cases templates.get? name <;> rfl

end Loader

namespace Environment

/-- What is fetched from templates in memory. -/
theorem fetched_memory {env : Environment σ} {templates : Mapping String}
    (hLoader : env.loader = some (Loader.memory templates)) (name : String)
    (state : σ) :
    env.fetched name state =
      match templates.get? name with
      | some source => env.parsed name source
      | none => .error (.notFound [name] (some "MemoryLoader")) := by
  unfold fetched
  rw [hLoader]
  show Loader.answer (Loader.loadFrom templates name) state >>= env.parsed name = _
  unfold Loader.loadFrom
  cases templates.get? name <;> rfl

/-- The loader, if there is one, is fixed. -/
def Unchanging (env : Environment σ) : Prop :=
  ∀ loader, env.loader = some loader → loader.Fixed

/-- The loader, if there is one, is coherent. -/
def Coherent (env : Environment σ) : Prop :=
  ∀ loader, env.loader = some loader → loader.Coherent

/-- What a name loads as from a shelf. -/
def Loads (env : Environment σ) (shelf : Shelf σ) (name : String)
    (template : Template) : Prop :=
  (env.load name).result shelf = .ok template

/-- All names load alike from two shelves. -/
def LoadsAlike (env : Environment σ) (first second : Shelf σ) : Prop :=
  ∀ name, (env.load name).result first = (env.load name).result second

/-- If all templates in memory stand on the shelf, nothing else loads. -/
theorem stands_of_loads {env : Environment σ} {templates : Mapping String}
    (hLoader : env.loader = some (Loader.memory templates)) {shelf : Shelf σ}
    (hStand : ∀ name, env.standing? shelf name = none → templates.get? name = none)
    {name : String} {template : Template} (h : env.Loads shelf name template) :
    env.standing? shelf name = some template := by
  unfold Loads at h
  rw [result_load] at h
  cases hStanding : env.standing? shelf name with
  | some standing =>
      rw [hStanding] at h
      cases h
      rfl
  | none =>
      rw [hStanding, fetched_memory hLoader, hStand name hStanding] at h
      cases h

/-- If there is a single template in memory and it stands on the shelf, nothing
else loads. -/
theorem eq_of_load_singleton {env : Environment σ} {name source : String}
    {template found : Template}
    (hLoader : env.loader = some (Loader.memory (Mapping.singleton name source)))
    (hKeeps : env.keepsTemplates = true) {other : String} {state : σ}
    (h : (env.load other).result ⟨Mapping.singleton name template, state⟩ = .ok found) :
    found = template := by
  have hStanding : ∀ key, env.standing? (⟨Mapping.singleton name template, state⟩ :
      Shelf σ) key = if name = key then some template else none := by
    intro key
    rw [standing?, if_pos hKeeps, Mapping.singleton, Mapping.get?_insert,
      Mapping.get?_empty]
  have hStands := stands_of_loads hLoader (fun key hNone => ?_) h
  · rw [hStanding] at hStands
    split at hStands <;> cases hStands
    rfl
  · rw [hStanding] at hNone
    rw [Mapping.singleton, Mapping.get?_insert, Mapping.get?_empty]
    split at hNone
    · cases hNone
    · rename_i hName
      rw [if_neg hName]

variable {env : Environment σ}

theorem Unchanging.fetched_eq (h : env.Unchanging) (name : String) (first second : σ) :
    env.fetched name first = env.fetched name second := by
  unfold fetched
  cases hLoader : env.loader with
  | none => rfl
  | some loader =>
      show Loader.answer (loader.load name) first >>=
        _ = Loader.answer (loader.load name) second >>= _
      rw [h loader hLoader name first second]

/-- From an empty shelf everything is fetched. -/
theorem result_load_empty (env : Environment σ) (name : String) (source : σ) :
    (env.load name).result ⟨Mapping.empty, source⟩ = env.fetched name source := by
  have hNothing : env.standing? (⟨Mapping.empty, source⟩ : Shelf σ) name = none := by
    unfold standing?
    split <;> rfl
  rw [result_load, hNothing]

namespace Coherent

variable (h : env.Coherent)

include h

theorem unchanging : env.Unchanging :=
  fun loader hLoader => (h loader hLoader).fixed

theorem found_eq (names : List String) (first second : σ) :
    env.found names first = env.found names second := by
  unfold found
  cases hLoader : env.loader with
  | none => rfl
  | some loader => exact (h loader hLoader).loadFirst names first second

/-- What is found for several names is what is fetched for one of them. -/
theorem fetched_of_found {names : List String} {name source : String} {state : σ}
    (hFound : env.found names state = .ok (name, source)) (other : σ) :
    env.fetched name other = env.parsed name source := by
  rw [h.unchanging.fetched_eq name other state]
  unfold found at hFound
  unfold fetched
  cases hLoader : env.loader with
  | none =>
      rw [hLoader] at hFound
      cases hFound
  | some loader =>
      rw [hLoader] at hFound
      show Loader.answer (loader.load name) state >>= env.parsed name = _
      rw [(h loader hLoader).source hFound]
      rfl

end Coherent

namespace LoadsAlike

theorem refl (shelf : Shelf σ) : env.LoadsAlike shelf shelf :=
  fun _ => rfl

theorem symm {first second : Shelf σ} (h : env.LoadsAlike first second) :
    env.LoadsAlike second first :=
  fun name => (h name).symm

theorem trans {first second third : Shelf σ} (h₁ : env.LoadsAlike first second)
    (h₂ : env.LoadsAlike second third) : env.LoadsAlike first third :=
  fun name => (h₁ name).trans (h₂ name)

/-- With a fixed loader, all names load as they did before a template was put under the
name that it loads by. -/
theorem of_standingWith (h : env.Unchanging) {shelf left : Shelf σ} {name : String}
    {outcome : Except Error Template}
    (hOutcome : ∀ template, outcome = .ok template →
      (env.load name).result shelf = .ok template)
    (hLeft : ∀ other, env.standing? left other =
      env.standingWith shelf name outcome other) :
    env.LoadsAlike left shelf := by
  intro other
  rw [env.result_load other, env.result_load other shelf, hLeft,
    h.fetched_eq other _ shelf.source]
  cases outcome with
  | error error => rfl
  | ok template =>
      rw [standingWith_ok]
      by_cases hName : env.keepsTemplates ∧ name = other
      · rw [if_pos hName, ← hName.2, ← env.result_load name shelf,
          hOutcome template rfl]
      · rw [if_neg hName]

/-- With a fixed loader, all names load as they did before something was loaded. -/
theorem after_load (h : env.Unchanging) (shelf : Shelf σ) (name : String) :
    env.LoadsAlike ((env.load name).after shelf) shelf :=
  of_standingWith h (fun _ => id) (env.standing?_after_load name shelf)

end LoadsAlike

end Environment

end TextTemplate
