import TextTemplate.Proofs.Inheritance.Agreement
import TextTemplate.Proofs.Loading.Unchanging
import TextTemplate.Proofs.Render.Balance

/-!
# Two renderings side by side

Many statements about rendering compare two runs that differ in one respect only: how
bindings are spread over scopes, how far scopes may be nested, whether templates are
kept. A `Coupling` says in which contexts two such runs belong together, and it names
the failures of the first run after which nothing is asked of the second one. Two
computations are in step if they lead from contexts that belong together to the same
result and to contexts that belong together again.

This module has one rule for each way in which renderings are put together. The rules
ask of the coupling only what the construct needs, so a coupling may relate contexts in
which some tags must not occur. Scopes are opened on both sides at once; that the scopes
around a body still belong together when its own scope is taken off is not the
coupling's doing, but follows from `Keeps`: they are the ones that were there before.

## Main definitions

* `Coupling`, `Coupling.InStep`, `Coupling.EndsAlike`.

## Main results

* `InStep.bind_of` — one computation after the other.
* `InStep.within` — a scope on either side, where the limits may differ.
* `InStep.lending`, `InStep.aside` — blocks that wait for a while.
-/

namespace TextTemplate

variable {σ α β : Type}

/-- What two renderings have in common that are carried out side by side. -/
structure Coupling (σ : Type) where
  /-- Which scopes belong together. -/
  scopes : Scopes → Scopes → Prop
  /-- Which waiting blocks belong together. -/
  overrides : Option Overrides → Option Overrides → Prop
  /-- Which shelves belong together. -/
  shelves : Shelf σ → Shelf σ → Prop
  /-- The errors of the first rendering after which nothing is asked of the second
  one. -/
  excused : Error → Prop
  /-- Whether contexts belong together after a failure, too. -/
  lasting : Prop

/-! ## Computations that lend blocks -/

namespace Render

/-- A computation for which other blocks wait than before. If none waited before, none
do afterwards. -/
def lending (lend : Option Overrides → Overrides) (body : Render σ α) : Render σ α := do
  let before ← overrides
  setOverrides (some (lend before))
  let outcome ← body.outcome
  if before.isNone then setOverrides none
  Render.ofExcept outcome

theorem result_lending (lend : Option Overrides → Overrides) (body : Render σ α)
    (context : Context σ) :
    (lending lend body).result context =
      body.result { context with overrides := some (lend context.overrides) } := by
  simp only [lending, result_bind, result_overrides, after_overrides,
    result_setOverrides, after_setOverrides, result_outcome, after_outcome]
  cases context.overrides <;> simp

theorem after_lending (lend : Option Overrides → Overrides) (body : Render σ α)
    (context : Context σ) :
    (lending lend body).after context =
      let left := body.after { context with overrides := some (lend context.overrides) }
      if context.overrides.isNone then { left with overrides := none } else left := by
  simp only [lending, after_bind, result_overrides, after_overrides,
    result_setOverrides, after_setOverrides, result_outcome, after_outcome]
  cases context.overrides <;> simp

theorem result_ofSession (session : Session σ α) (context : Context σ) :
    (Render.ofSession session).result context = session.result context.shelf := by
  unfold result ofSession Session.result
  cases session context.shelf <;> rfl

theorem after_ofSession (session : Session σ α) (context : Context σ) :
    (Render.ofSession session).after context =
      { context with shelf := session.after context.shelf } := by
  unfold after ofSession Session.after
  cases session context.shelf <;> rfl

end Render

namespace Coupling

variable (coupling : Coupling σ)

/-- The contexts belong together. -/
structure Joins (first second : Context σ) : Prop where
  scopes : coupling.scopes first.scopes second.scopes
  overrides : coupling.overrides first.overrides second.overrides
  shelves : coupling.shelves first.shelf second.shelf

/-- The second outcome is the first one, unless that is excused; `left` holds after a
success, and after a failure if the coupling lasts. -/
def Matches (first second : Except Error α) (left : Prop) : Prop :=
  match first with
  | .ok value => second = .ok value ∧ left
  | .error error =>
    coupling.excused error ∨ second = .error error ∧ (coupling.lasting → left)

/-- Two computations that lead from contexts that belong together to the same result,
and to contexts of which something holds. -/
def LeadsTo (left : Context σ → Context σ → Prop) (first second : Render σ α) : Prop :=
  ∀ context other, coupling.Joins context other →
    coupling.Matches (first.result context) (second.result other)
      (left (first.after context) (second.after other))

/-- Two computations that lead to the same result and to contexts that belong
together again. -/
def InStep (first second : Render σ α) : Prop :=
  coupling.LeadsTo coupling.Joins first second

/-- Two computations that lead to the same result, whatever they leave. -/
def EndsAlike (first second : Render σ α) : Prop :=
  coupling.LeadsTo (fun _ _ => True) first second

/-- A scope more keeps scopes together, and where the first rendering has room for one,
so has the second one. The first one may be the only one without room if it is
excused. -/
structure Opens (limit limit' : Nat) : Prop where
  push {first second : Scopes} (scope : Scope) (h : coupling.scopes first second) :
    coupling.scopes (scope :: first) (scope :: second)
  room {first second : Scopes} (h : coupling.scopes first second)
    (hRoom : first.length ≤ limit) : second.length ≤ limit'
  full {first second : Scopes} (h : coupling.scopes first second) (hFull : limit <
    first.length) :
    coupling.excused (.tooDeep limit) ∨ limit' = limit ∧ limit' < second.length

variable {coupling}

namespace Matches

theorem of_eq {first second : Except Error α} {left : Prop} (hEq : second = first)
    (hLeft : left) :
    coupling.Matches first second left := by
  subst hEq
  cases second with
  | ok value => exact ⟨rfl, hLeft⟩
  | error error => exact .inr ⟨rfl, fun _ => hLeft⟩

theorem mono {first second : Except Error α} {left later : Prop}
    (h : coupling.Matches first second left) (hLater : left → later) :
    coupling.Matches first second later := by
  cases first with
  | ok value => exact ⟨h.1, hLater h.2⟩
  | error error =>
      exact h.imp_right fun hError => ⟨hError.1,
        fun hLasting => hLater (hError.2 hLasting)⟩

/-- The same after a change of both outcomes. -/
theorem map {first second : Except Error α} {left : Prop}
    (h : coupling.Matches first second left) (change : α → β) :
    coupling.Matches (first.map change) (second.map change) left := by
  cases first with
  | ok value => exact ⟨by rw [h.1]; rfl, h.2⟩
  | error error => exact h.imp_right fun hError => ⟨by rw [hError.1]; rfl, hError.2⟩

/-- If nothing is excused and the coupling lasts, both outcomes are the same and what is
left belongs together. -/
theorem of_strict {first second : Except Error α} {left : Prop}
    (h : coupling.Matches first second left) (hLasting : coupling.lasting)
    (hStrict : ∀ error, ¬ coupling.excused error) : second = first ∧ left := by
  cases first with
  | ok value => exact h
  | error error =>
      obtain ⟨hSecond, hLeft⟩ := h.resolve_left (hStrict error)
      exact ⟨hSecond, hLeft hLasting⟩

/-- What the second outcome is if the first one is no excuse. -/
theorem eq_or_excused {first second : Except Error α} {left : Prop}
    (h : coupling.Matches first second left) :
    second = first ∨ ∃ error, first = .error error ∧ coupling.excused error := by
  cases first with
  | ok value => exact .inl h.1
  | error error =>
      exact h.elim (fun hExcused => .inr ⟨error, rfl, hExcused⟩)
        fun hError => .inl hError.1

end Matches

open Render

/-- Whatever is asked of the contexts that are left, it is asked of those that the
second step leaves, and of those that belong together if there is none. -/
theorem LeadsTo.bind_of {left : Context σ → Context σ → Prop}
    {first second : Render σ α} {next next' : α → Render σ β} (possible : α → Prop)
    (hFirst : coupling.InStep first second)
    (hPossible : ∀ context other, coupling.Joins context other → ∀ value,
      first.result context = .ok value → possible value)
    (hNext : ∀ value, possible value → coupling.LeadsTo left (next value) (next' value))
    (hLeft : ∀ context other, coupling.Joins context other → left context other) :
    coupling.LeadsTo left (first >>= next) (second >>= next') := by
  intro context other hJoins
  have hStart := hFirst context other hJoins
  rw [result_bind, result_bind, after_bind, after_bind]
  cases hResult : first.result context with
  | ok value =>
      rw [hResult] at hStart
      obtain ⟨hSecond, hJoined⟩ := hStart
      rw [hSecond]
      exact hNext value (hPossible context other hJoins value hResult) _ _ hJoined
  | error error =>
      rw [hResult] at hStart
      rcases hStart with hExcused | ⟨hSecond, hJoined⟩
      · exact .inl hExcused
      · rw [hSecond]
        exact .inr ⟨rfl, fun hLasting => hLeft _ _ (hJoined hLasting)⟩

namespace EndsAlike

/-- At the end only the result counts. -/
theorem bind_of {first second : Render σ α} {next next' : α → Render σ β}
    (possible : α → Prop) (hFirst : coupling.InStep first second)
    (hPossible : ∀ context other, coupling.Joins context other → ∀ value,
      first.result context = .ok value → possible value)
    (hNext : ∀ value, possible value → coupling.EndsAlike (next value) (next' value)) :
    coupling.EndsAlike (first >>= next) (second >>= next') :=
  LeadsTo.bind_of possible hFirst hPossible hNext fun _ _ _ => trivial

/-- The same change of either result. -/
theorem map {first second : Render σ α} (h : coupling.EndsAlike first second)
    (change : α → β) :
    coupling.EndsAlike (do return change (← first)) (do return change (← second)) := by
  have hResult : ∀ (computation : Render σ α) context,
      (do return change (← computation) : Render σ β).result context =
        (computation.result context).map change := by
    intro computation context
    rw [result_bind]
    cases computation.result context <;> rfl
  intro context other hJoins
  rw [hResult, hResult]
  exact (h context other hJoins).map change

end EndsAlike

namespace InStep

theorem endsAlike {first second : Render σ α} (h : coupling.InStep first second) :
    coupling.EndsAlike first second :=
  fun context other hJoins => (h context other hJoins).mono fun _ => trivial

/-- Computations that only look at the context. -/
theorem observe {first second : Render σ α}
    (hFirst : ∀ context, first.after context = context)
    (hSecond : ∀ context, second.after context = context)
    (hResult : ∀ context other, coupling.Joins context other →
      coupling.Matches (first.result context) (second.result other) True) :
    coupling.InStep first second := by
  intro context other hJoins
  rw [hFirst, hSecond]
  exact (hResult context other hJoins).mono fun _ => hJoins

theorem pure (value : α) : coupling.InStep (pure value : Render σ α) (pure value) :=
  observe (after_pure value) (after_pure value) fun _ _ _ => ⟨rfl, trivial⟩

theorem throw (error : Error) :
    coupling.InStep (throw error : Render σ α) (throw error) :=
  observe (after_throw error) (after_throw error) fun _ _ _ => .of_eq rfl trivial

/-- After an error that is excused nothing is asked of the second computation. -/
theorem excuse {error : Error} (h : coupling.excused error) (second : Render σ α) :
    coupling.InStep (MonadExcept.throw error : Render σ α) second :=
  fun _ _ _ => .inl h

theorem ofExcept (outcome : Except Error α) :
    coupling.InStep (Render.ofExcept outcome : Render σ α) (Render.ofExcept outcome) :=
  observe (after_ofExcept outcome) (after_ofExcept outcome) fun _ _ _ => by
    rw [result_ofExcept, result_ofExcept]
    exact .of_eq rfl trivial

/-- One computation after the other, where the second step is in step for the values
that the first one can give. -/
theorem bind_of {first second : Render σ α} {next next' : α → Render σ β}
    (possible : α → Prop) (hFirst : coupling.InStep first second)
    (hPossible : ∀ context other, coupling.Joins context other → ∀ value,
      first.result context = .ok value → possible value)
    (hNext : ∀ value, possible value → coupling.InStep (next value) (next' value)) :
    coupling.InStep (first >>= next) (second >>= next') :=
  LeadsTo.bind_of possible hFirst hPossible hNext fun _ _ => id

theorem bind {first second : Render σ α} {next next' : α → Render σ β}
    (hFirst : coupling.InStep first second)
    (hNext : ∀ value, coupling.InStep (next value) (next' value)) :
    coupling.InStep (first >>= next) (second >>= next') :=
  hFirst.bind_of (fun _ => True) (fun _ _ _ _ _ => trivial) fun value _ => hNext value

/-- A scope on either side. -/
theorem within {limit limit' : Nat} (hOpens : coupling.Opens limit limit')
    {first second : Render σ α} (hFirst : first.Keeps False)
    (hSecond : second.Keeps False) (h : coupling.InStep first second) (scope : Scope) :
    coupling.InStep (Render.within limit scope first)
      (Render.within limit' scope second) := by
  intro context other hJoins
  rw [result_within, after_within, result_within, after_within]
  by_cases hFull : limit < context.scopes.length
  · rw [if_pos hFull, if_pos hFull]
    rcases hOpens.full hJoins.scopes hFull with hExcused | ⟨hLimit, hOther⟩
    · exact .inl hExcused
    · rw [if_pos hOther, if_pos hOther, hLimit]
      exact .inr ⟨rfl, fun _ => hJoins⟩
  · have hOther := Nat.not_lt.mpr (hOpens.room hJoins.scopes (Nat.not_lt.mp hFull))
    rw [if_neg hFull, if_neg hFull, if_neg hOther, if_neg hOther]
    have hInner : coupling.Joins (context.push scope) (other.push scope) :=
      ⟨hOpens.push scope hJoins.scopes, hJoins.overrides, hJoins.shelves⟩
    refine (h _ _ hInner).mono fun hLeft => ⟨?_, hLeft.overrides, hLeft.shelves⟩
    have hContext : ((first.after (context.push scope)).pop).scopes = context.scopes :=
      (hFirst (context.push scope)).outer
    have hOtherScopes : ((second.after (other.push scope)).pop).scopes = other.scopes :=
      (hSecond (other.push scope)).outer
    rw [hContext, hOtherScopes]
    exact hJoins.scopes

/-! ### Lists of computations -/

theorem joinTexts {ι : Type} {first second : ι → Render σ String}
    (h : ∀ item, coupling.InStep (first item) (second item)) (items : List ι)
    (text : String) :
    coupling.InStep (Render.joinTexts text (items.map first))
      (Render.joinTexts text (items.map second)) := by
  induction items generalizing text with
  | nil => exact pure text
  | cons item rest ih => exact (h item).bind fun more => ih (text ++ more)

theorem select {ι : Type} {first second : ι → Render σ Bool}
    (h : ∀ item, coupling.InStep (first item) (second item)) (accepted items : List ι) :
    coupling.InStep (Render.select first accepted items)
      (Render.select second accepted items) := by
  induction items generalizing accepted with
  | nil => exact pure _
  | cons item rest ih =>
      refine (h item).bind fun answer => ?_
      cases answer with
      | true => exact ih (item :: accepted)
      | false => exact ih accepted

/-! ### Blocks that wait -/

/-- What is taken on the side is put back on either side. -/
theorem aside {first second : Render σ α} (h : coupling.InStep first second) :
    coupling.InStep (Render.aside first) (Render.aside second) := by
  intro context other hJoins
  rw [result_aside, after_aside, result_aside, after_aside]
  exact (h context other hJoins).mono fun hLeft => ⟨hLeft.scopes, hJoins.overrides,
    hLeft.shelves⟩

/-- Blocks are lent on either side, where some waited before on both sides or on
none. -/
theorem lending {lend : Option Overrides → Overrides} {first second : Render σ α}
    (hLend : ∀ before before', coupling.overrides before before' →
      coupling.overrides (some (lend before)) (some (lend before')) ∧
        before.isNone = before'.isNone) (h : coupling.InStep first second) :
    coupling.InStep (Render.lending lend first) (Render.lending lend second) := by
  intro context other hJoins
  obtain ⟨hLent, hNone⟩ := hLend _ _ hJoins.overrides
  have hInner : coupling.Joins
      { context with overrides := some (lend context.overrides) }
      { other with overrides := some (lend other.overrides) } :=
    ⟨hJoins.scopes, hLent, hJoins.shelves⟩
  rw [result_lending, after_lending, result_lending, after_lending]
  refine (h _ _ hInner).mono fun hLeft => ?_
  have hBefore := hJoins.overrides
  cases hContext : context.overrides with
  | none =>
      rw [hContext] at hNone hBefore hLeft
      have hOther : other.overrides = none := Option.isNone_iff_eq_none.mp hNone.symm
      rw [hOther] at hBefore hLeft ⊢
      exact ⟨hLeft.scopes, hBefore, hLeft.shelves⟩
  | some waiting =>
      rw [hContext] at hNone hLeft
      rw [← hNone]
      exact hLeft

/-! ### Sessions and outcomes -/

/-- Sessions that give the same and leave shelves that belong together. -/
theorem ofSession {first second : Session σ α}
    (h : ∀ shelf other, coupling.shelves shelf other →
      coupling.Matches (first.result shelf) (second.result other)
        (coupling.shelves (first.after shelf) (second.after other))) :
    coupling.InStep (Render.ofSession first) (Render.ofSession second) := by
  intro context other hJoins
  rw [result_ofSession, after_ofSession, result_ofSession, after_ofSession]
  exact (h _ _ hJoins.shelves).mono fun hLeft => ⟨hJoins.scopes,
    hJoins.overrides, hLeft⟩

/-- A failure may be looked at if contexts belong together after it and none is
excused. -/
theorem outcome (hLasting : coupling.lasting)
    (hStrict : ∀ error, ¬ coupling.excused error) {first second : Render σ α}
    (h : coupling.InStep first second) :
    coupling.InStep first.outcome second.outcome := by
  intro context other hJoins
  have hRun := h context other hJoins
  rw [result_outcome, after_outcome, result_outcome, after_outcome]
  cases hResult : first.result context with
  | ok value =>
      rw [hResult] at hRun
      exact ⟨by rw [hRun.1], hRun.2⟩
  | error error =>
      rw [hResult] at hRun
      obtain ⟨hSecond, hLeft⟩ := hRun.resolve_left (hStrict error)
      exact ⟨by rw [hSecond], hLeft hLasting⟩

end InStep

end Coupling

end TextTemplate
