import TextTemplate.Render.Nodes

/-!
# Results of renderings

A computation in a context gives a result and leaves a context, in success and in
failure alike. This module reads the two off separately, so that statements about
rendering speak of `result` and `after` and never of the pairs that a run returns. There
is one equation a primitive for each of them; they are tagged for `simp` and everything
else about rendering is derived from them.

## Main results

* `result_bind`, `after_bind` — a computation that fails ends there, and what comes
  later sees the context that the earlier part leaves.
* `result_within`, `after_within` — a scope is opened only below the limit, and is taken
  off again however the body ends.
* `ext_run` — result and context left are all there is to a computation.
-/

namespace TextTemplate

variable {σ α β : Type}

namespace Context

/-- The context with one scope more. -/
def push (context : Context σ) (scope : Scope) : Context σ :=
  { context with scopes := scope :: context.scopes }

/-- The context without its innermost scope. -/
def pop (context : Context σ) : Context σ :=
  { context with scopes := context.scopes.tail }

/-- The block that waits for a name. -/
def waiting? (context : Context σ) (name : String) : Option (Block Node) :=
  context.overrides.bind fun waiting => waiting.get? name

end Context

namespace Render

/-- What a computation gives. -/
def result (computation : Render σ α) (context : Context σ) : Except Error α :=
  match computation context with
  | .ok value _ => .ok value
  | .error error _ => .error error

/-- The context that a computation leaves. -/
def after (computation : Render σ α) (context : Context σ) : Context σ :=
  match computation context with
  | .ok _ left => left
  | .error _ left => left

/-- Computations that give the same result and leave the same context run alike. -/
theorem ext_run {first second : Render σ α} {context : Context σ}
    (hResult : first.result context = second.result context)
    (hAfter : first.after context = second.after context) :
    first context = second context := by
  unfold result at hResult
  unfold after at hAfter
  cases hFirst : first context <;> cases hSecond : second context <;>
    simp only [hFirst, hSecond, Except.ok.injEq, Except.error.injEq, reduceCtorEq]
      at hResult hAfter <;>
    rw [hResult, hAfter]

/-- A computation that gives a value and leaves a context. -/
theorem run_eq_ok {computation : Render σ α} {context left : Context σ} {value : α}
    (hResult : computation.result context = .ok value)
    (hAfter : computation.after context = left) :
    computation context = .ok value left := by
  unfold result at hResult
  unfold after at hAfter
  cases hRun : computation context <;> simp_all

/-! ## Sequencing -/

@[simp] theorem result_pure (value : α) (context : Context σ) :
    (pure value : Render σ α).result context = .ok value := rfl

@[simp] theorem after_pure (value : α) (context : Context σ) :
    (pure value : Render σ α).after context = context := rfl

@[simp] theorem result_throw (error : Error) (context : Context σ) :
    (throw error : Render σ α).result context = .error error := rfl

@[simp] theorem after_throw (error : Error) (context : Context σ) :
    (throw error : Render σ α).after context = context := rfl

@[simp] theorem result_bind (first : Render σ α) (next : α → Render σ β)
    (context : Context σ) :
    (first >>= next).result context =
      match first.result context with
      | .ok value => (next value).result (first.after context)
      | .error error => .error error := by
  simp only [result, after, bind, EStateM.bind]
  cases first context <;> rfl

@[simp] theorem after_bind (first : Render σ α) (next : α → Render σ β)
    (context : Context σ) :
    (first >>= next).after context =
      match first.result context with
      | .ok value => (next value).after (first.after context)
      | .error _ => first.after context := by
  simp only [result, after, bind, EStateM.bind]
  cases first context <;> rfl

/-- What comes behind a computation that succeeds. -/
theorem bind_run_of_ok {first : Render σ α} {next : α → Render σ β}
    {context left : Context σ} {value : α} (h : first context = .ok value left) :
    (first >>= next) context = next value left := by
  simp only [Bind.bind, EStateM.bind, h]

@[simp] theorem result_map (change : α → β) (computation : Render σ α)
    (context : Context σ) :
    (change <$> computation).result context =
      (computation.result context).map change := by
  simp only [result, Functor.map, EStateM.map]
  cases computation context <;> rfl

@[simp] theorem after_map (change : α → β) (computation : Render σ α)
    (context : Context σ) :
    (change <$> computation).after context = computation.after context := by
  simp only [after, Functor.map, EStateM.map]
  cases computation context <;> rfl

@[simp] theorem result_ofExcept (outcome : Except Error α) (context : Context σ) :
    (Render.ofExcept outcome).result context = outcome := by
  cases outcome <;> rfl

@[simp] theorem after_ofExcept (outcome : Except Error α) (context : Context σ) :
    (Render.ofExcept outcome).after context = context := by
  cases outcome <;> rfl

@[simp] theorem result_outcome (computation : Render σ α) (context : Context σ) :
    computation.outcome.result context = .ok (computation.result context) := by
  unfold result outcome
  cases computation context <;> rfl

@[simp] theorem after_outcome (computation : Render σ α) (context : Context σ) :
    computation.outcome.after context = computation.after context := by
  unfold after outcome
  cases computation context <;> rfl

/-! ## Scopes -/

@[simp] theorem result_scopes (context : Context σ) :
    Render.scopes.result context = .ok context.scopes := rfl

@[simp] theorem after_scopes (context : Context σ) :
    Render.scopes.after context = context := rfl

@[simp] theorem result_set (name : String) (value : Value) (context : Context σ) :
    (Render.set name value).result context = .ok () := rfl

@[simp] theorem after_set (name : String) (value : Value) (context : Context σ) :
    (Render.set name value).after context =
      { context with scopes := context.scopes.set name value } := rfl

@[simp] theorem result_within (limit : Nat) (scope : Scope) (body : Render σ α)
    (context : Context σ) :
    (Render.within limit scope body).result context =
      if limit < context.scopes.length then .error (.tooDeep limit)
      else body.result (context.push scope) := by
  unfold result Render.within
  by_cases hDeep : limit < context.scopes.length
  · simp only [if_pos hDeep]
  · simp only [if_neg hDeep, Context.push]
    cases body { context with scopes := scope :: context.scopes } <;> rfl

@[simp] theorem after_within (limit : Nat) (scope : Scope) (body : Render σ α)
    (context : Context σ) :
    (Render.within limit scope body).after context =
      if limit < context.scopes.length then context
      else (body.after (context.push scope)).pop := by
  unfold after Render.within
  by_cases hDeep : limit < context.scopes.length
  · simp only [if_pos hDeep]
  · simp only [if_neg hDeep, Context.push]
    cases body { context with scopes := scope :: context.scopes } <;> rfl

/-! ## Blocks that wait -/

@[simp] theorem result_overrides (context : Context σ) :
    Render.overrides.result context = .ok context.overrides := rfl

@[simp] theorem after_overrides (context : Context σ) :
    Render.overrides.after context = context := rfl

@[simp] theorem result_setOverrides (overrides : Option Overrides)
    (context : Context σ) :
    (Render.setOverrides overrides).result context = .ok () := rfl

@[simp] theorem after_setOverrides (overrides : Option Overrides)
    (context : Context σ) :
    (Render.setOverrides overrides).after context = { context with overrides } := rfl

@[simp] theorem result_takeOverride (name : String) (context : Context σ) :
    (Render.takeOverride name).result context = .ok (context.waiting? name) := by
  unfold result takeOverride Context.waiting?
  cases context.overrides <;> rfl

@[simp] theorem after_takeOverride (name : String) (context : Context σ) :
    (Render.takeOverride name).after context =
      { context with
        overrides := context.overrides.map fun waiting => waiting.erase name } := by
  obtain ⟨scopes, overrides, shelf⟩ := context
  cases overrides <;> rfl

end Render

namespace Environment

variable (env : Environment σ)

/-! ## Reading the scopes

Operands, conditions and times look at the scopes and leave everything as it is. -/

@[simp] theorem result_resolve (operand : Operand) (context : Context σ) :
    (env.resolve operand).result context =
      operand.resolve env.maxRange context.scopes := by
  simp [resolve]

@[simp] theorem after_resolve (operand : Operand) (context : Context σ) :
    (env.resolve operand).after context = context := by
  simp [resolve]

@[simp] theorem result_test (condition : Option Condition) (context : Context σ) :
    (env.test condition).result context =
      match condition with
      | none => .ok true
      | some condition => condition.evaluate env.maxRange context.scopes := by
  cases condition <;> simp [test]

@[simp] theorem after_test (condition : Option Condition) (context : Context σ) :
    (env.test condition).after context = context := by
  cases condition <;> simp [test]

@[simp] theorem after_scopeOf (bindings : Option Variable) (context : Context σ) :
    (scopeOf bindings : Render σ Scope).after context = context := by
  cases bindings <;> simp [scopeOf]

@[simp] theorem after_printTime (format : String) (context : Context σ) :
    (env.printTime format).after context = context := by
  unfold printTime
  cases env.clock.print? format <;> rfl

@[simp] theorem after_renderNow (format : Option Variable) (context : Context σ) :
    (env.renderNow format).after context = context := by
  cases format with
  | none => exact env.after_printTime standardTimeFormat context
  | some format =>
      simp only [renderNow, Render.after_bind, Render.result_scopes,
        Render.after_scopes]
      split
      · exact env.after_printTime _ context
      · rfl

end Environment

end TextTemplate
