import TextTemplate.Proofs.Inheritance.Filling
import TextTemplate.Proofs.Render.Outcome
import TextTemplate.Proofs.Scope.Alike

/-!
# Blocks that wait and blocks filled in

A root template is rendered twice: once while the blocks of derived templates wait for
its blocks, and once with these blocks filled into its tree. The two renderings differ
in the contexts that they run in. In the first one, more scopes are open, though they
show the same, and blocks wait; in the second one none do.

`Agrees` relates two such computations. It lists the names of the blocks that the
first one may take, and with them it keeps count of who takes what: a computation
leaves alone what waits for other names. So two computations agree one after the other
if no name is taken in both (`Agrees.bind`), and this is why a root template must not
have two blocks of one name. What a block takes while it renders the text that it
replaces is put back (`Agrees.aside`).

Everything is said up to one excuse: the first rendering, whose scopes are nested
deeper, may hit the limit on their depth.
-/

namespace TextTemplate

variable {σ α β : Type}

/-! ## Contexts -/

/-- The first context belongs to a rendering for which blocks wait and the second one to
a rendering of the filled tree. For each of the names the block waits that `find`
gives. -/
structure Context.Follows (find : String → Option (Block Node)) (names : List String)
    (first second : Context σ) : Prop where
  alike : first.scopes.Alike second.scopes
  depth : second.scopes.length ≤ first.scopes.length
  idle : second.overrides = none
  waiting : ∀ name ∈ names, first.waiting? name = find name

/-- The scopes are as before, and no more is taken of what waits than the blocks of
some names. -/
structure Context.Spared (names : List String) (before after : Context σ) : Prop where
  scopes : after.scopes = before.scopes
  waiting : ∀ name ∉ names, after.waiting? name = before.waiting? name

namespace Context

theorem Spared.refl (names : List String) (context : Context σ) :
    Spared names context context :=
  ⟨rfl, fun _ _ => rfl⟩

theorem Spared.mono {names more : List String} {before after : Context σ}
    (h : Spared names before after) (hSubset : names ⊆ more) :
    Spared more before after :=
  ⟨h.scopes, fun name hName => h.waiting name fun hMem => hName (hSubset hMem)⟩

theorem Spared.trans {names more : List String} {start middle last : Context σ}
    (h₁ : Spared names start middle) (h₂ : Spared more middle last) :
    Spared (names ++ more) start last := by
  refine ⟨h₂.scopes.trans h₁.scopes, fun name hName => ?_⟩
  rw [List.mem_append, not_or] at hName
  exact (h₂.waiting name hName.2).trans (h₁.waiting name hName.1)

/-- The context once the block of a name has been taken. -/
def took (context : Context σ) (name : String) : Context σ :=
  { context with overrides := context.overrides.map fun waiting => waiting.erase name }

private theorem waiting?_took (context : Context σ) (name other : String) :
    (context.took name).waiting? other = if name = other then none
      else context.waiting? other := by
  obtain ⟨scopes, overrides, shelf⟩ := context
  cases overrides with
  | none =>
      show none = if name = other then none else none
      rw [ite_self]
  | some waiting => exact Mapping.get?_erase waiting name other

variable {find : String → Option (Block Node)} {names : List String}
  {first second : Context σ}

theorem Follows.mono {fewer : List String} (h : Follows find names first second)
    (hSubset : fewer ⊆ names) : Follows find fewer first second :=
  ⟨h.alike, h.depth, h.idle, fun name hName => h.waiting name (hSubset hName)⟩

/-- Contexts go on to belong together as long as nothing is taken of what still has
to wait. -/
theorem Follows.later {more : List String} {first' second' : Context σ}
    (h : Follows find (names ++ more) first second) (hFirst : Spared names first first')
    (hScopes : second'.scopes = second.scopes) (hIdle : second'.overrides = none)
    (hApart : ∀ name ∈ names, name ∉ more) : Follows find more first' second' where
  alike := by
    rw [hFirst.scopes, hScopes]
    exact h.alike
  depth := by
    rw [hFirst.scopes, hScopes]
    exact h.depth
  idle := hIdle
  waiting := by
    intro name hName
    rw [hFirst.waiting name fun hOther => hApart name hOther hName]
    exact h.waiting name (List.mem_append_right names hName)

/-- A scope more on either side. -/
theorem Follows.push (h : Follows find names first second) (scope : Scope) :
    Follows find names (first.push scope) (second.push scope) :=
  ⟨h.alike.push scope, Nat.succ_le_succ h.depth, h.idle, h.waiting⟩

/-- An empty scope more in the rendering for which blocks wait. -/
theorem Follows.push_empty (h : Follows find names first second) :
    Follows find names (first.push Mapping.empty) second :=
  ⟨(Scopes.Alike.push_empty _).trans h.alike, Nat.le_succ_of_le h.depth,
    h.idle, h.waiting⟩

end Context

/-! ## Computations -/

namespace Render

open Context

/-- Two computations, the first one for contexts in which blocks wait, the second one
for contexts in which none do. Unless the first one hits the limit, they give the same,
and of all that waits the first one takes the blocks of `names` at most. -/
def Agrees (limit : Nat) (find : String → Option (Block Node)) (names : List String)
    (first second : Render σ α) : Prop :=
  ∀ waits idles : Context σ, Follows find names waits idles →
    first.result waits = .error (.tooDeep limit) ∨
      first.result waits = second.result idles ∧
        Spared names waits (first.after waits) ∧
        (second.after idles).scopes = idles.scopes ∧
          (second.after idles).overrides = none

/-- A computation after which the blocks wait again that waited before. -/
def aside (body : Render σ α) : Render σ α := do
  let waiting ← overrides
  let outcome ← body.outcome
  setOverrides waiting
  Render.ofExcept outcome

theorem result_aside (body : Render σ α) (context : Context σ) :
    (aside body).result context = body.result context := by
  simp [aside]

theorem after_aside (body : Render σ α) (context : Context σ) :
    (aside body).after context =
      { body.after context with overrides := context.overrides } := by
  simp [aside]

/-- All blocks but those of one name. -/
def without (find : String → Option (Block Node)) (name : String) :
    String → Option (Block Node) :=
  fun other => if name = other then none else find other

namespace Agrees

variable {limit : Nat} {find : String → Option (Block Node)} {names : List String}

theorem mono {more : List String} {first second : Render σ α}
    (h : Agrees limit find names first second) (hSubset : names ⊆ more) :
    Agrees limit find more first second := by
  intro waits idles hFollows
  rcases h waits idles (hFollows.mono hSubset) with hDeep | ⟨hResult, hSpared, hIdles⟩
  · exact .inl hDeep
  · exact .inr ⟨hResult, hSpared.mono hSubset, hIdles⟩

/-- Only the blocks of the names matter that may be taken. -/
theorem congr {other : String → Option (Block Node)} {first second : Render σ α}
    (h : Agrees limit find names first second)
    (hOther : ∀ name ∈ names, other name = find name) :
    Agrees limit other names first second := by
  intro waits idles hFollows
  refine h waits idles ⟨hFollows.alike, hFollows.depth, hFollows.idle,
    fun name hName => ?_⟩
  rw [hFollows.waiting name hName, hOther name hName]

/-- Computations that look at the scopes only. -/
theorem observe {first second : Render σ α}
    (hFirst : ∀ context, first.after context = context)
    (hSecond : ∀ context, second.after context = context)
    (hResult : ∀ waits idles : Context σ, waits.scopes.Alike idles.scopes →
      first.result waits = second.result idles) :
    Agrees limit find [] first second := by
  intro waits idles hFollows
  refine .inr ⟨hResult waits idles hFollows.alike, ?_⟩
  rw [hFirst, hSecond]
  exact ⟨.refl [] waits, rfl, hFollows.idle⟩

theorem pure (value : α) :
    Agrees limit find [] (pure value : Render σ α) (pure value) :=
  observe (after_pure value) (after_pure value) fun _ _ _ => rfl

theorem ofExcept (outcome : Except Error α) :
    Agrees limit find [] (Render.ofExcept outcome : Render σ α)
      (Render.ofExcept outcome) :=
  observe (after_ofExcept outcome) (after_ofExcept outcome) fun _ _ _ => by
    rw [result_ofExcept, result_ofExcept]

/-- One computation after the other, if no block is taken in both. -/
theorem bind {more : List String} {first second : Render σ α}
    {next next' : α → Render σ β} (hStart : Agrees limit find names first second)
    (hNext : ∀ value, Agrees limit find more (next value) (next' value))
    (hApart : ∀ name ∈ names, name ∉ more) :
    Agrees limit find (names ++ more) (first >>= next) (second >>= next') := by
  intro waits idles hFollows
  rw [result_bind, result_bind, after_bind, after_bind]
  rcases hStart waits idles (hFollows.mono (List.subset_append_left names more)) with
    hDeep | ⟨hResult, hSpared, hScopes, hIdle⟩
  · rw [hDeep]
    exact .inl rfl
  · rw [← hResult]
    cases first.result waits with
    | error error =>
        exact .inr ⟨rfl, hSpared.mono (List.subset_append_left names more),
          hScopes, hIdle⟩
    | ok value =>
        have hLater := hFollows.later hSpared hScopes hIdle hApart
        rcases hNext value _ _ hLater with hDeep | ⟨hResult', hSpared',
          hScopes', hIdle'⟩
        · exact .inl hDeep
        · exact .inr ⟨hResult', hSpared.trans hSpared', hScopes'.trans hScopes, hIdle'⟩

/-- A computation that takes nothing, and another one after it. -/
theorem then_bind {first second : Render σ α} {next next' : α → Render σ β}
    (hStart : Agrees limit find [] first second)
    (hNext : ∀ value, Agrees limit find names (next value) (next' value)) :
    Agrees limit find names (first >>= next) (second >>= next') :=
  hStart.bind hNext fun _ hName => absurd hName List.not_mem_nil

/-- The same scope on either side. -/
theorem within {first second : Render σ α} (h : Agrees limit find names first second)
    (scope : Scope) :
    Agrees limit find names (Render.within limit scope first)
      (Render.within limit scope second) := by
  intro waits idles hFollows
  rw [result_within, after_within, result_within, after_within]
  by_cases hDeep : limit < waits.scopes.length
  · rw [if_pos hDeep]
    exact .inl rfl
  · have hDepth := hFollows.depth
    have hShallow : ¬ limit < idles.scopes.length := by omega
    rw [if_neg hDeep, if_neg hDeep, if_neg hShallow, if_neg hShallow]
    rcases h _ _ (hFollows.push scope) with hInner | ⟨hResult, hSpared, hScopes, hIdle⟩
    · exact .inl hInner
    · refine .inr ⟨hResult, ⟨?_, hSpared.waiting⟩, ?_, hIdle⟩
      · exact congrArg List.tail hSpared.scopes
      · exact congrArg List.tail hScopes

/-- An empty scope where blocks wait. -/
theorem within_empty {first second : Render σ α}
    (h : Agrees limit find names first second) :
    Agrees limit find names (Render.within limit Mapping.empty first) second := by
  intro waits idles hFollows
  rw [result_within, after_within]
  by_cases hDeep : limit < waits.scopes.length
  · rw [if_pos hDeep]
    exact .inl rfl
  · rw [if_neg hDeep, if_neg hDeep]
    rcases h _ _ hFollows.push_empty with hInner | ⟨hResult, hSpared, hIdles⟩
    · exact .inl hInner
    · exact .inr ⟨hResult, ⟨congrArg List.tail hSpared.scopes, hSpared.waiting⟩, hIdles⟩

/-! ### Lists of computations -/

theorem joinTexts {ι : Type} {first second : ι → Render σ String}
    (h : ∀ item, Agrees limit find [] (first item) (second item)) (items : List ι)
    (text : String) :
    Agrees limit find [] (Render.joinTexts text (items.map first))
      (Render.joinTexts text (items.map second)) := by
  induction items generalizing text with
  | nil => exact pure text
  | cons item rest ih => exact (h item).then_bind fun more => ih (text ++ more)

theorem select {ι : Type} {first second : ι → Render σ Bool}
    (h : ∀ item, Agrees limit find [] (first item) (second item))
    (accepted items : List ι) :
    Agrees limit find [] (Render.select first accepted items)
      (Render.select second accepted items) := by
  induction items generalizing accepted with
  | nil => exact pure _
  | cons item rest ih =>
      refine (h item).then_bind fun answer => ?_
      cases answer with
      | true => exact ih (item :: accepted)
      | false => exact ih accepted

/-! ### Taking a block -/

/-- Where blocks wait, a block takes what waits for its name, and from then on nothing
waits for it. -/
theorem take {name : String} {next : Option (Block Node) → Render σ α}
    {second : Render σ α}
    (h : Agrees limit (without find name) (name :: names) (next (find name)) second) :
    Agrees limit find (name :: names) (takeOverride name >>= next) second := by
  intro waits idles hFollows
  have hFound : waits.waiting? name = find name :=
    hFollows.waiting name List.mem_cons_self
  rw [result_bind, after_bind, result_takeOverride, after_takeOverride, hFound]
  have hTaken : Follows (without find name) (name :: names)
      (waits.took name) idles := by
    refine ⟨hFollows.alike, hFollows.depth, hFollows.idle, fun other hOther => ?_⟩
    rw [waits.waiting?_took, hFollows.waiting other hOther]
    rfl
  rcases h (waits.took name) idles hTaken with hDeep | ⟨hResult, hSpared, hIdles⟩
  · exact .inl hDeep
  · refine .inr ⟨hResult, ⟨hSpared.scopes, fun other hOther => ?_⟩, hIdles⟩
    have hName : name ≠ other := by
      rintro rfl
      exact hOther List.mem_cons_self
    exact (hSpared.waiting other hOther).trans
      ((waits.waiting?_took name other).trans (if_neg hName))

/-- Where no blocks wait, there is nothing to take. -/
theorem take_idle {name : String} {next : Option (Block Node) → Render σ α}
    {first : Render σ α} (h : Agrees limit find names first (next none)) :
    Agrees limit find names first (takeOverride name >>= next) := by
  intro waits idles hFollows
  have hIdle : idles.took name = idles := by
    obtain ⟨scopes, overrides, shelf⟩ := idles
    cases (show overrides = none from hFollows.idle)
    rfl
  have hNothing : idles.waiting? name = none := by
    rw [Context.waiting?, hFollows.idle]
    rfl
  rw [result_bind, after_bind, result_takeOverride, after_takeOverride, hNothing]
  show _ ∨ _ = (next none).result (idles.took name) ∧ _ ∧
    ((next none).after (idles.took name)).scopes = _ ∧
      ((next none).after (idles.took name)).overrides = _
  rw [hIdle]
  exact h waits idles hFollows

/-- What is taken aside is put back. -/
theorem aside {first second : Render σ α} (h : Agrees limit find names first second) :
    Agrees limit find names (Render.aside first) second := by
  intro waits idles hFollows
  rw [result_aside, after_aside]
  rcases h waits idles hFollows with hDeep | ⟨hResult, hSpared, hIdles⟩
  · exact .inl hDeep
  · exact .inr ⟨hResult, ⟨hSpared.scopes, fun _ _ => rfl⟩, hIdles⟩

end Agrees

end Render

end TextTemplate
