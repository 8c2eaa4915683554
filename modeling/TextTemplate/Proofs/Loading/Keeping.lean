import Mathlib.Logic.Relation
import TextTemplate.Proofs.Loading.Fixed
import TextTemplate.Proofs.Loading.Transparency
import TextTemplate.Proofs.Render.Halting

/-!
# Templates are kept until the shelf is cleared

What a loader draws from may change at any moment, also while a template is rendered,
and it may begin to fail. A template that has loaded is not touched by this: until the
shelf is cleared, its name loads as that very template, whoever asks for it and whatever
the loader would say, and nothing that fails leaves a trace on the shelf.

Operations are too coarse to say so, since a rendering asks for templates on its way. An
application is therefore followed from one stage to the next: it stands between two
operations, or in the middle of a rendering at one of the steps of its machine. What one
move keeps, every course keeps that consists of such moves, and every sequence of
operations is such a course.

## Main definitions

* `Stage`, `Environment.Moves`, `Environment.Course`.
* `Environment.Loading` — the moves that load a template, with what they load.

## Main results

* `Environment.Moves.get?_templates` — no move replaces a template or takes it off
  the shelf.
* `Environment.course_performAll` — operations are courses.
* `Environment.kept_until_cleared` — what the shelf keeps, and for how long.
-/

namespace TextTemplate

variable {σ : Type}

/-! ## Stages -/

/-- Where an application stands with its environment. -/
inductive Stage (σ : Type) where
  /-- Between two operations. -/
  | idle (shelf : Shelf σ)
  /-- In the middle of a rendering. -/
  | rendering (machine : Machine σ)

namespace Stage

/-- The shelf at a stage. -/
def shelf : Stage σ → Shelf σ
  | idle shelf => shelf
  | rendering machine => machine.context.shelf

/-- The stage after a change of what the loader draws from. -/
def alter (change : σ → σ) : Stage σ → Stage σ
  | idle shelf => idle { shelf with source := change shelf.source }
  | rendering ⟨⟨scopes, overrides, shelf⟩, errand⟩ =>
    rendering ⟨⟨scopes, overrides,
      { shelf with source := change shelf.source }⟩, errand⟩

@[simp] theorem templates_alter (change : σ → σ) (stage : Stage σ) :
    (stage.alter change).shelf.templates = stage.shelf.templates := by
  cases stage <;> rfl

end Stage

namespace Environment

/-- What can happen at a stage, other than that the shelf is cleared. What the loader
draws from may change at any stage, and a rendering may go on at any time. -/
inductive Moves (env : Environment σ) : Stage σ → Stage σ → Prop where
  | load (shelf : Shelf σ) (name : String) :
      Moves env (.idle shelf) (.idle ((env.load name).after shelf))
  | loadFirst (shelf : Shelf σ) (names : List String) :
      Moves env (.idle shelf) (.idle ((env.loadFirst names).after shelf))
  | start (shelf : Shelf σ) (nodes : List Node) (data : Mapping Value) :
      Moves env (.idle shelf) (.rendering (.start nodes ⟨[data], none, shelf⟩))
  | advance (machine : Machine σ) (time : Moment) :
      Moves env (.rendering machine)
        (.rendering ({ env with clock := time }.step machine))
  | finish (context : Context σ) (outcome : Except Error String) :
      Moves env (.rendering ⟨context, .halt outcome⟩) (.idle context.shelf)
  | alter (stage : Stage σ) (change : σ → σ) : Moves env stage (stage.alter change)

/-- Any number of moves. -/
def Course (env : Environment σ) : Stage σ → Stage σ → Prop :=
  Relation.ReflTransGen env.Moves

/-- A move that loads a template, with the name and the template, or with the error. A
rendering does so where it includes a template or finds the parent of one. -/
inductive Loading (env : Environment σ) :
    Stage σ → Except Error (String × Template) → Stage σ → Prop where
  | load (shelf : Shelf σ) (name : String) :
      Loading env (.idle shelf) (((env.load name).result shelf).map fun template =>
        (name, template)) (.idle ((env.load name).after shelf))
  | loadFirst (shelf : Shelf σ) (names : List String) :
      Loading env (.idle shelf)
        (do
          let (name, _) ← env.found names shelf.source
          return (name, ← (env.loadFirst names).result shelf))
        (.idle ((env.loadFirst names).after shelf))
  | advance (context : Context σ) (name : String)
      (next : Except Error Template → Errand σ) (time : Moment) :
      Loading env (.rendering ⟨context, .load name next⟩)
        (((env.load name).result context.shelf).map fun template => (name, template))
        (.rendering ({ env with clock := time }.step ⟨context, .load name next⟩))

variable {env : Environment σ}

/-! ## What one move does -/

/-- A step of a rendering that asks for a template leaves the shelf that loading
leaves. -/
theorem shelf_step_load (env : Environment σ) (context : Context σ) (name : String)
    (next : Except Error Template → Errand σ) :
    (env.step ⟨context, .load name next⟩).context.shelf =
      (env.load name).after context.shelf := by
  simp only [step, Session.after]
  cases env.load name context.shelf <;> rfl

/-- No other step of a rendering has to do with the shelf. -/
private theorem shelf_step (env : Environment σ) (context : Context σ)
    {errand : Errand σ} (h : ∀ name next, errand ≠ .load name next) :
    (env.step ⟨context, errand⟩).context.shelf = context.shelf := by
  cases errand with
  | load name next => exact absurd rfl (h name next)
  | enter scope next =>
      simp only [step]
      split <;> rfl
  | _ => rfl

section Keeping

variable (hKeeps : env.keepsTemplates = true)

include hKeeps

/-- The templates on the shelf are those that are given in place of new ones. -/
theorem standing?_of_keeps (shelf : Shelf σ) (name : String) :
    env.standing? shelf name = shelf.templates.get? name :=
  if_pos hKeeps

/-- Loading any name leaves a template that stands on the shelf where it is. -/
private theorem get?_after_load {shelf : Shelf σ} {name : String} {template : Template}
    (h : shelf.templates.get? name = some template) (other : String) :
    ((env.load other).after shelf).templates.get? name = some template := by
  rw [← standing?_of_keeps hKeeps] at h ⊢
  rw [standing?_after_load]
  cases hResult : (env.load other).result shelf with
  | error error => exact h
  | ok found =>
      rw [standingWith_ok]
      split
      · rename_i hName
        rw [hName.2, result_load, h] at hResult
        cases hResult
        rfl
      · exact h

/-- So does loading the first of several names. -/
private theorem get?_after_loadFirst {shelf : Shelf σ} {name : String}
    {template : Template} (h : shelf.templates.get? name = some template)
    (names : List String) :
    ((env.loadFirst names).after shelf).templates.get? name = some template := by
  rw [← standing?_of_keeps hKeeps] at h ⊢
  rw [standing?_after_loadFirst, result_loadFirst]
  cases hFound : env.found names shelf.source with
  | error error => exact h
  | ok pair =>
      obtain ⟨other, source⟩ := pair
      by_cases hName : other = name
      · subst hName
        simp only [h, standingWith_ok, hKeeps, and_self, if_true]
      · simp only
        cases hStanding : env.standing? shelf other with
        | some found => simp only [standingWith_ok, hName, and_false, if_false, h]
        | none =>
            cases env.parsed other source with
            | error error => exact h
            | ok found => simp only [standingWith_ok, hName, and_false, if_false, h]

/-- No move replaces a template that stands on the shelf, or takes it off. -/
theorem Moves.get?_templates {stage later : Stage σ} (hMoves : env.Moves stage later)
    {name : String} {template : Template}
    (h : stage.shelf.templates.get? name = some template) :
    later.shelf.templates.get? name = some template := by
  cases hMoves with
  | load shelf other => exact get?_after_load hKeeps h other
  | loadFirst shelf names => exact get?_after_loadFirst hKeeps h names
  | start shelf nodes data => exact h
  | advance machine time =>
      obtain ⟨context, errand⟩ := machine
      by_cases hLoad : ∃ other next, errand = .load other next
      · obtain ⟨other, next, rfl⟩ := hLoad
        show (({ env with clock := time }.step _).context.shelf).templates.get? name = _
        rw [shelf_step_load]
        exact get?_after_load hKeeps h other
      · show (({ env with clock := time }.step _).context.shelf).templates.get? name = _
        rw [shelf_step _ _ fun other next hErrand => hLoad ⟨other, next, hErrand⟩]
        exact h
  | finish context outcome => exact h
  | alter stage change =>
      rw [Stage.templates_alter]
      exact h

/-- What any number of moves leaves on the shelf. -/
theorem Course.get?_templates {stage later : Stage σ} (hCourse : env.Course stage later)
    {name : String} {template : Template}
    (h : stage.shelf.templates.get? name = some template) :
    later.shelf.templates.get? name = some template := by
  induction hCourse with
  | refl => exact h
  | tail _ hMoves ih => exact hMoves.get?_templates hKeeps ih

/-! ## What loads -/

/-- Once a name has loaded its template stands on the shelf, and a name that has not
loaded changes nothing there. -/
private theorem get?_after_load_of_result (shelf : Shelf σ) (name other : String) :
    ((env.load name).after shelf).templates.get? other =
      match (env.load name).result shelf with
      | .ok template =>
          if name = other then some template else shelf.templates.get? other
      | .error _ => shelf.templates.get? other := by
  rw [← standing?_of_keeps hKeeps, standing?_after_load,
    ← standing?_of_keeps hKeeps shelf]
  cases (env.load name).result shelf with
  | ok template => simp only [standingWith_ok, hKeeps, true_and]
  | error error => rfl

/-- Whatever asks for a template: once it has loaded it stands on the shelf, and if it
has not nothing changes there. -/
theorem Loading.get?_templates {stage later : Stage σ}
    {outcome : Except Error (String × Template)} (other : String) :
    env.Loading stage outcome later →
      later.shelf.templates.get? other =
        match outcome with
        | .ok (name, template) =>
            if name = other then some template else stage.shelf.templates.get? other
        | .error _ => stage.shelf.templates.get? other := by
  intro h
  cases h with
  | load shelf name =>
      refine (get?_after_load_of_result hKeeps shelf name other).trans ?_
      cases (env.load name).result shelf <;> rfl
  | advance context name next time =>
      show (({ env with clock := time }.step _).context.shelf).templates.get? other = _
      rw [shelf_step_load]
      refine (get?_after_load_of_result hKeeps context.shelf name other).trans ?_
      cases (env.load name).result context.shelf <;> rfl
  | loadFirst shelf names =>
      show ((env.loadFirst names).after shelf).templates.get? other = _
      rw [← standing?_of_keeps hKeeps, standing?_after_loadFirst]
      cases hFound : env.found names shelf.source with
      | error error => exact standing?_of_keeps hKeeps shelf other
      | ok pair =>
          obtain ⟨name, source⟩ := pair
          cases (env.loadFirst names).result shelf with
          | error error => exact standing?_of_keeps hKeeps shelf other
          | ok template =>
              simp only [standingWith_ok, hKeeps, true_and,
                standing?_of_keeps hKeeps shelf]
              rfl

/-- A template that stands on the shelf is given without a question to any loader. -/
theorem load_of_get? {shelf : Shelf σ} {name : String} {template : Template}
    (h : shelf.templates.get? name = some template) :
    env.load name shelf = .ok template shelf :=
  load_of_kept (by rw [kept?, if_pos hKeeps, h])

/-- A rendering that asks for a template that stands on the shelf goes on with it, and
nothing else changes. -/
private theorem step_of_get? {context : Context σ} {name : String} {template : Template}
    (h : context.shelf.templates.get? name = some template)
    (next : Except Error Template → Errand σ) :
    env.step ⟨context, .load name next⟩ = ⟨context, next (.ok template)⟩ := by
  simp only [step, load_of_get? hKeeps h]

/-- If the loader picks a name whose template stands on the shelf, this template
is given. -/
private theorem result_loadFirst_of_get? {shelf : Shelf σ} {names : List String}
    {name source : String} {template : Template}
    (hFound : env.found names shelf.source = .ok (name, source))
    (h : shelf.templates.get? name = some template) :
    (env.loadFirst names).result shelf = .ok template := by
  rw [← standing?_of_keeps hKeeps] at h
  rw [result_loadFirst, hFound]
  simp only [h]

end Keeping

/-! ## Operations -/

/-- What operations leave on the shelf, one after the other, each at some time. -/
def performAll (env : Environment σ) (shelf : Shelf σ)
    (operations : List (Operation σ × Moment)) : Shelf σ :=
  operations.foldl (fun left step =>
    ({ env with clock := step.2 }.perform left step.1).2) shelf

/-- Steps of a rendering are moves. -/
private theorem course_run (env : Environment σ) (time : Moment) (steps : Nat)
    (machine : Machine σ) :
    env.Course (.rendering machine)
      (.rendering ({ env with clock := time }.run steps machine)) := by
  induction steps generalizing machine with
  | zero => exact .refl
  | succ steps ih => exact .head (.advance machine time) (ih _)

/-- Rendering a template is a course. -/
private theorem course_renderTemplate (env : Environment σ) (time : Moment)
    (template : Template) (data : Mapping Value) (shelf : Shelf σ) :
    env.Course (.idle shelf)
      (.idle (({ env with clock := time }.renderTemplate template data).after
        shelf)) := by
  have hLeads : Leads { env with clock := time } _ _ _ :=
    leads_render template.nodes ⟨[data], none, shelf⟩
  obtain ⟨steps, hSteps⟩ := hLeads.exists_run
  have hRun := env.course_run time steps (.start template.nodes ⟨[data], none, shelf⟩)
  rw [hSteps] at hRun
  rw [after_renderTemplate]
  exact .head (.start shelf template.nodes data) (.tail hRun (.finish _ _))

/-- Every operation but clearing the shelf is a course. -/
private theorem course_perform (env : Environment σ) (time : Moment) (shelf : Shelf σ)
    {operation : Operation σ} (h : operation ≠ .clear) :
    env.Course (.idle shelf)
      (.idle ({ env with clock := time }.perform shelf operation).2) := by
  cases operation with
  | load name => exact .single (.load shelf name)
  | loadFirst names => exact .single (.loadFirst shelf names)
  | clear => exact absurd rfl h
  | alter change => exact .single (.alter (.idle shelf) change)
  | renderNamed name data =>
      have hLoad : env.Course (.idle shelf) (.idle ((env.load name).after shelf)) :=
        .single (.load shelf name)
      show env.Course _ (.idle
        (({ env with clock := time }.renderNamed name data).after shelf))
      rw [renderNamed, Session.after_bind]
      split
      · exact hLoad.trans (env.course_renderTemplate time _ data _)
      · exact hLoad
  | renderText source data =>
      show env.Course _ (.idle
        (({ env with clock := time }.renderText source data).after shelf))
      rw [renderText, Session.after_bind, Session.after_ofExcept]
      split
      · exact env.course_renderTemplate time _ data shelf
      · exact .refl

/-- Operations among which the shelf is not cleared are a course. -/
theorem course_performAll (env : Environment σ) (shelf : Shelf σ)
    {operations : List (Operation σ × Moment)}
    (h : ∀ step ∈ operations, step.1 ≠ .clear) :
    env.Course (.idle shelf) (.idle (env.performAll shelf operations)) := by
  induction operations generalizing shelf with
  | nil => exact .refl
  | cons step rest ih =>
      obtain ⟨hFirst, hRest⟩ := List.forall_mem_cons.mp h
      exact (env.course_perform step.2 shelf hFirst).trans (ih _ hRest)

/-- With templates kept, a name that has loaded once, by whatever asked for it, loads as
the very same template on every course until the shelf is cleared: whichever loader
there is by then, it is not asked, and a rendering that includes the template or is
derived from it goes on with it. If the loader picks the name among several, the
template is given, too. A name that does not load changes nothing on the shelf, nor does
a text that does not parse. Every sequence of operations that does not clear the shelf
is such a course, whatever becomes of what the loader draws from. -/
theorem kept_until_cleared (hKeeps : env.keepsTemplates = true) :
    (∀ (shelf : Shelf σ) (operations : List (Operation σ × Moment)),
      (∀ step ∈ operations, step.1 ≠ .clear) →
        env.Course (.idle shelf) (.idle (env.performAll shelf operations))) ∧
    (∀ (shelf : Shelf σ) (source : String) (data : Mapping Value) (error : Error),
      env.parse source = .error error →
        (env.renderText source data).after shelf = shelf) ∧
    ∀ (stage loaded : Stage σ) (outcome : Except Error (String × Template)),
      env.Loading stage outcome loaded →
      (∀ error, outcome = .error error →
        ∀ name, loaded.shelf.templates.get? name = stage.shelf.templates.get? name) ∧
      ∀ name template, outcome = .ok (name, template) →
        ∀ later, env.Course loaded later →
        later.shelf.templates.get? name = some template ∧
        (∀ loader : Option (Loader σ),
          { env with loader := loader }.load name later.shelf =
            .ok template later.shelf) ∧
        (∀ (loader : Option (Loader σ)) (time : Moment) (context : Context σ)
          (next : Except Error Template → Errand σ),
            later = .rendering ⟨context, .load name next⟩ →
            { env with loader := loader, clock := time }.step ⟨context,
              .load name next⟩ =
              ⟨context, next (.ok template)⟩) ∧
        ∀ names source, env.found names later.shelf.source = .ok (name, source) →
          (env.loadFirst names).result later.shelf = .ok template := by
  refine ⟨fun shelf operations h => env.course_performAll shelf h,
    fun shelf source data error hParse => ?_,
      fun stage loaded outcome hLoading => ⟨fun error hError name => ?_, ?_⟩⟩
  · rw [renderText, parseTemplate, hParse]
    rfl
  · subst hError
    exact Loading.get?_templates hKeeps name hLoading
  · intro name template hOutcome later hCourse
    subst hOutcome
    have hLoaded : loaded.shelf.templates.get? name = some template :=
      (Loading.get?_templates hKeeps name hLoading).trans (if_pos rfl)
    have hLater := hCourse.get?_templates hKeeps hLoaded
    refine ⟨hLater, fun loader => ?_, fun loader time context next hStage => ?_,
      fun names source hFound => ?_⟩
    · have hSame : ({ env with loader := loader } : Environment σ).keepsTemplates =
          true := hKeeps
      exact load_of_get? hSame hLater
    · subst hStage
      have hSame : ({ env with loader := loader, clock := time } :
          Environment σ).keepsTemplates = true := hKeeps
      exact step_of_get? hSame hLater next
    · exact result_loadFirst_of_get? hKeeps hFound hLater

/-- A template is taken out of the table that the loader looks into, and still loads. -/
theorem kept_until_cleared_of_removed :
    let look (name : String) : EStateM Error (Mapping String) String := fun table =>
      match table.get? name with
      | some source => .ok source table
      | none => .error (.notFound [name] none) table
    let env : Environment (Mapping String) :=
      { loader := some (Loader.ofLoad "a table" look),
        clock := ⟨2024, 2, 29, 12, 0, 0, 0, 0⟩ }
    let shelf : Shelf (Mapping String) := ⟨Mapping.empty, Mapping.singleton "a" "x"⟩
    let emptied := env.performAll ((env.load "a").after shelf)
      [(.alter fun _ => Mapping.empty, env.clock), (.load "a", env.clock),
        (.load "b", env.clock)]
    (env.load "a").result shelf = .ok ⟨some "a", [.text "x"]⟩ ∧
      env.load "a" emptied = .ok ⟨some "a", [.text "x"]⟩ emptied := by
  intro look env shelf emptied
  have hTokens : tokenize "x" = [.text "x"] := by cbv
  have hParse : env.parse "x" = .ok [.text "x"] := by
    rw [Environment.parse, Registry.parse, hTokens]
    rfl
  have hResult : (env.load "a").result shelf = .ok ⟨some "a", [.text "x"]⟩ := by
    rw [result_load]
    show env.parsed "a" "x" = _
    rw [parsed, hParse]
    rfl
  have hLoading : env.Loading (.idle shelf) (((env.load "a").result shelf).map
      fun template => ("a", template))
      (.idle ((env.load "a").after shelf)) := .load shelf "a"
  have hKeeps : env.keepsTemplates = true := rfl
  obtain ⟨hCourses, -, hKept⟩ := kept_until_cleared hKeeps
  have hCourse := hCourses ((env.load "a").after shelf)
    [(.alter fun _ => Mapping.empty, env.clock), (.load "a", env.clock),
      (.load "b", env.clock)] (by simp)
  rw [hResult] at hLoading
  obtain ⟨-, hAlways⟩ := hKept _ _ _ hLoading
  exact ⟨hResult, (hAlways "a" _ rfl _ hCourse).2.1 env.loader⟩

end Environment

end TextTemplate
