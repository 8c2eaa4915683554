import TextTemplate.Environment

/-!
# What loading gives

A session gives a result and leaves a shelf. As for renderings, the two are read off
separately, with an equation a primitive. What a name loads as is then one of two
things: the template that stands on the shelf, or what the loader's source parses
to; and all that loading changes about the shelf is that the template it gave stands
there afterwards.

## Main results

* `Environment.result_load`, `Environment.standing?_after_load` — loading in terms of
  the shelf and of what would be fetched.
* `Environment.result_loadFirst`, `Environment.standing?_after_loadFirst` — the same for
  several names.
-/

namespace TextTemplate

variable {σ α β : Type}

/-- What a request gives, whatever it leaves behind. -/
def Loader.answer (request : EStateM Error σ α) (state : σ) : Except Error α :=
  match request state with
  | .ok value _ => .ok value
  | .error error _ => .error error

namespace Session

/-- What a session gives. -/
def result (session : Session σ α) (shelf : Shelf σ) : Except Error α :=
  match session shelf with
  | .ok value _ => .ok value
  | .error error _ => .error error

/-- The shelf that a session leaves. -/
def after (session : Session σ α) (shelf : Shelf σ) : Shelf σ :=
  match session shelf with
  | .ok _ left => left
  | .error _ left => left

@[simp] theorem result_pure (value : α) (shelf : Shelf σ) :
    (pure value : Session σ α).result shelf = .ok value := rfl

@[simp] theorem after_pure (value : α) (shelf : Shelf σ) :
    (pure value : Session σ α).after shelf = shelf := rfl

@[simp] theorem result_throw (error : Error) (shelf : Shelf σ) :
    (throw error : Session σ α).result shelf = .error error := rfl

@[simp] theorem after_throw (error : Error) (shelf : Shelf σ) :
    (throw error : Session σ α).after shelf = shelf := rfl

@[simp] theorem result_bind (first : Session σ α) (next : α → Session σ β)
    (shelf : Shelf σ) :
    (first >>= next).result shelf =
      match first.result shelf with
      | .ok value => (next value).result (first.after shelf)
      | .error error => .error error := by
  simp only [result, after, bind, EStateM.bind]
  cases first shelf <;> rfl

@[simp] theorem after_bind (first : Session σ α) (next : α → Session σ β)
    (shelf : Shelf σ) :
    (first >>= next).after shelf =
      match first.result shelf with
      | .ok value => (next value).after (first.after shelf)
      | .error _ => first.after shelf := by
  simp only [result, after, bind, EStateM.bind]
  cases first shelf <;> rfl

@[simp] theorem result_ofExcept (outcome : Except Error α) (shelf : Shelf σ) :
    (Session.ofExcept outcome).result shelf = outcome := by
  cases outcome <;> rfl

@[simp] theorem after_ofExcept (outcome : Except Error α) (shelf : Shelf σ) :
    (Session.ofExcept outcome).after shelf = shelf := by
  cases outcome <;> rfl

@[simp] theorem result_ofSource (request : EStateM Error σ α) (shelf : Shelf σ) :
    (Session.ofSource request).result shelf = Loader.answer request shelf.source := by
  unfold result ofSource Loader.answer
  cases request shelf.source <;> rfl

/-- A request to the loader leaves the templates where they are. -/
@[simp] theorem templates_after_ofSource (request : EStateM Error σ α)
    (shelf : Shelf σ) :
    ((Session.ofSource request).after shelf).templates = shelf.templates := by
  unfold after ofSource
  cases request shelf.source <;> rfl

end Session

namespace Environment

open Session

variable (env : Environment σ)

/-! ## The shelf -/

/-- The template that stands on a shelf and is given in place of a new one. -/
def standing? (shelf : Shelf σ) (name : String) : Option Template :=
  if env.keepsTemplates then shelf.templates.get? name else none

/-- The template that a source is under a name. -/
def parsed (name source : String) : Except Error Template :=
  (env.parse source).map fun nodes => ⟨some name, nodes⟩

/-- What stands on a shelf once the outcome of loading a name has been put there. -/
def standingWith (shelf : Shelf σ) (name : String) (outcome : Except Error Template)
    (other : String) : Option Template :=
  match outcome with
  | .ok template =>
    if env.keepsTemplates ∧ name = other then some template
      else env.standing? shelf other
  | .error _ => env.standing? shelf other

theorem standingWith_ok (shelf : Shelf σ) (name : String) (template : Template)
    (other : String) :
    env.standingWith shelf name (.ok template) other =
      if env.keepsTemplates ∧ name = other then some template
        else env.standing? shelf other :=
  rfl

/-- Nothing changes if a template is put where it stands. -/
theorem standingWith_of_standing {shelf : Shelf σ} {name : String} {template : Template}
    (h : env.standing? shelf name = some template) (other : String) :
    env.standingWith shelf name (.ok template) other = env.standing? shelf other := by
  rw [standingWith_ok]
  by_cases hName : env.keepsTemplates ∧ name = other
  · rw [if_pos hName, ← hName.2, h]
  · rw [if_neg hName]

/-- What a name loads as when it does not stand on the shelf. -/
def fetched (name : String) (state : σ) : Except Error Template :=
  match env.loader with
  | none => .error (.notFound [name] none)
  | some loader => Loader.answer (loader.load name) state >>= env.parsed name

@[simp] theorem result_kept? (name : String) (shelf : Shelf σ) :
    (env.kept? name).result shelf = .ok (env.standing? shelf name) := rfl

@[simp] theorem after_kept? (name : String) (shelf : Shelf σ) :
    (env.kept? name).after shelf = shelf := rfl

/-- What stands on a shelf is a matter of its templates alone. -/
theorem standing?_congr {first second : Shelf σ}
    (h : first.templates = second.templates) (name : String) :
    env.standing? first name = env.standing? second name := by
  unfold standing?
  rw [h]

/-! ## Loading -/

@[simp] theorem result_keep (name : String) (template : Template) (shelf : Shelf σ) :
    (env.keep name template).result shelf = .ok () := by
  unfold result keep
  cases env.keepsTemplates <;> rfl

private theorem standing?_after_keep (name : String) (template : Template)
    (shelf : Shelf σ) (other : String) :
    env.standing? ((env.keep name template).after shelf) other =
      env.standingWith shelf name (.ok template) other := by
  rw [standingWith_ok]
  unfold standing? after keep
  cases env.keepsTemplates with
  | false => simp
  | true => simp

theorem result_store (name source : String) (shelf : Shelf σ) :
    (env.store name source).result shelf = env.parsed name source := by
  unfold store parsed
  simp only [result_bind, result_ofExcept, result_keep, result_pure]
  cases env.parse source <;> rfl

theorem standing?_after_store (name source : String) (shelf : Shelf σ)
    (other : String) :
    env.standing? ((env.store name source).after shelf) other =
      env.standingWith shelf name (env.parsed name source) other := by
  unfold store parsed
  simp only [after_bind, result_ofExcept, after_ofExcept, result_keep, after_pure]
  cases env.parse source with
  | error error => rfl
  | ok nodes => exact env.standing?_after_keep name _ shelf other

/-- A name loads as the template that stands on the shelf, and otherwise as what
is fetched. -/
theorem result_load (name : String) (shelf : Shelf σ) :
    (env.load name).result shelf =
      match env.standing? shelf name with
      | some template => .ok template
      | none => env.fetched name shelf.source := by
  unfold load fetched requireLoader
  rw [result_bind, result_kept?, after_kept?]
  cases env.standing? shelf name with
  | some template => rfl
  | none =>
      cases env.loader with
      | none => rfl
      | some loader =>
          simp only [result_bind, result_pure, after_pure, result_ofSource,
            result_store]
          cases Loader.answer (loader.load name) shelf.source <;> rfl

/-- Once a name has loaded, its template stands on the shelf. Nothing else
changes there. -/
theorem standing?_after_load (name : String) (shelf : Shelf σ) (other : String) :
    env.standing? ((env.load name).after shelf) other =
      env.standingWith shelf name ((env.load name).result shelf) other := by
  rw [result_load]
  cases hStanding : env.standing? shelf name with
  | some template =>
      have hAfter : (env.load name).after shelf = shelf := by
        rw [load, after_bind, result_kept?, after_kept?, hStanding]
        rfl
      rw [hAfter]
      exact (env.standingWith_of_standing hStanding other).symm
  | none =>
      unfold load fetched requireLoader
      rw [after_bind, result_kept?, after_kept?, hStanding]
      cases env.loader with
      | none => rfl
      | some loader =>
          simp only [after_bind, result_pure, after_pure, result_ofSource]
          have hSame :=
            env.standing?_congr (templates_after_ofSource (loader.load name) shelf)
          cases Loader.answer (loader.load name) shelf.source with
          | error error => exact hSame other
          | ok source =>
              rw [standing?_after_store]
              unfold standingWith
              rw [hSame]
              rfl

/-! ## Loading the first of several names -/

/-- The first of several names that can be found, with its source. -/
def found (names : List String) (state : σ) : Except Error (String × String) :=
  match env.loader with
  | none => .error (.notFound names none)
  | some loader => Loader.answer (loader.loadFirst names) state

/-- The first of several names that can be found loads as the template of that name that
stands on the shelf, and otherwise as what its source is. -/
theorem result_loadFirst (names : List String) (shelf : Shelf σ) :
    (env.loadFirst names).result shelf =
      match env.found names shelf.source with
      | .error error => .error error
      | .ok (name, source) =>
        match env.standing? shelf name with
        | some template => .ok template
        | none => env.parsed name source := by
  unfold loadFirst found requireLoader
  cases env.loader with
  | none => rfl
  | some loader =>
      simp only [result_bind, result_pure, after_pure, result_ofSource, result_kept?,
        after_kept?]
      have hSame :=
        env.standing?_congr (templates_after_ofSource (loader.loadFirst names) shelf)
      cases Loader.answer (loader.loadFirst names) shelf.source with
      | error error => rfl
      | ok pair =>
          obtain ⟨name, source⟩ := pair
          simp only [hSame]
          cases env.standing? shelf name with
          | some template => rfl
          | none => exact env.result_store name source _

/-- Once the first of several names has loaded, its template stands on the shelf.
Nothing else changes there. -/
theorem standing?_after_loadFirst (names : List String) (shelf : Shelf σ)
    (other : String) :
    env.standing? ((env.loadFirst names).after shelf) other =
      match env.found names shelf.source with
      | .error _ => env.standing? shelf other
      | .ok (name, _) =>
          env.standingWith shelf name ((env.loadFirst names).result shelf) other := by
  rw [result_loadFirst]
  unfold loadFirst found requireLoader
  cases env.loader with
  | none => rfl
  | some loader =>
      simp only [after_bind, result_pure, after_pure, result_ofSource, result_kept?,
        after_kept?]
      have hSame :=
        env.standing?_congr (templates_after_ofSource (loader.loadFirst names) shelf)
      cases Loader.answer (loader.loadFirst names) shelf.source with
      | error error => exact hSame other
      | ok pair =>
          obtain ⟨name, source⟩ := pair
          simp only [hSame]
          cases hStanding : env.standing? shelf name with
          | some template =>
              exact (hSame other).trans
                (env.standingWith_of_standing hStanding other).symm
          | none =>
              refine (env.standing?_after_store name source _ other).trans ?_
              unfold standingWith
              rw [hSame]

end Environment

end TextTemplate
