import TextTemplate.Condition.Basic

/-!
# Scopes that show the same

Expressions see of the scopes only which value each name has. How many scopes are open,
and which of them binds a name, makes no difference to an operand, a filter chain or a
condition. So two stacks of scopes are exchangeable in a template once they show the
same, and an empty scope on top changes nothing.

## Main results

* `Scopes.Alike.push` — a scope more on either side.
* `Operand.resolve_eq_of_alike`, `Condition.evaluate_eq_of_alike` — expressions cannot
  tell the stacks apart.
-/

namespace TextTemplate

namespace Scopes

/-- Two stacks of scopes that show the same value for every name. -/
def Alike (first second : Scopes) : Prop :=
  ∀ name, first.get? name = second.get? name

/-- The innermost scope decides if it binds the name. -/
theorem get?_cons (scope : Scope) (outer : Scopes) (name : String) :
    Scopes.get? (scope :: outer) name =
      match scope.get? name with
      | some value => (some value).filter fun value => !value.isNil
      | none => Scopes.get? outer name := by
  unfold Scopes.get?
  rw [binding?]
  cases scope.get? name <;> rfl

namespace Alike

theorem refl (scopes : Scopes) : Alike scopes scopes :=
  fun _ => rfl

theorem trans {first second third : Scopes} (h₁ : Alike first second)
    (h₂ : Alike second third) :
    Alike first third :=
  fun name => (h₁ name).trans (h₂ name)

/-- A scope more on either side. -/
theorem push {first second : Scopes} (h : Alike first second) (scope : Scope) :
    Alike (scope :: first) (scope :: second) := by
  intro name
  rw [get?_cons, get?_cons, h name]

/-- An empty scope shows nothing of its own. -/
theorem push_empty (scopes : Scopes) : Alike (Mapping.empty :: scopes) scopes := by
  intro name
  rw [get?_cons, Mapping.get?_empty]

end Alike

end Scopes

variable {first second : Scopes}

theorem Variable.resolve_eq_of_alike (h : first.Alike second) (subject : Variable) :
    subject.resolve first = subject.resolve second := by
  unfold Variable.resolve
  split
  · rfl
  · rename_i segments _
    cases segments with
    | nil => rfl
    | cons name rest => rw [resolvePath, resolvePath, h name]

/-- Filters look at the scopes for their arguments only. -/
theorem FilterChain.applyAll_congr {filters : List AppliedFilter}
    (h : ∀ applied ∈ filters, ∀ argument ∈ applied.arguments,
      argument.resolve first = argument.resolve second) (value : Value) :
    applyAll first value filters = applyAll second value filters := by
  induction filters generalizing value with
  | nil => rfl
  | cons applied rest ih =>
      obtain ⟨hApplied, hRest⟩ := List.forall_mem_cons.mp h
      have hArguments : (applied.arguments.map fun argument => argument.resolve first) =
          applied.arguments.map fun argument => argument.resolve second :=
        List.map_congr_left hApplied
      rw [applyAll, applyAll, hArguments]
      cases applied.filter.invoke value
        (applied.arguments.map fun argument => argument.resolve second) with
      | error error => rfl
      | ok result => exact ih hRest result

private theorem FilterChain.applyAll_eq_of_alike (h : first.Alike second)
    (value : Value) (filters : List AppliedFilter) :
    applyAll first value filters = applyAll second value filters :=
  applyAll_congr (fun _ _ argument _ => argument.resolve_eq_of_alike h) value

theorem FilterChain.resolve_eq_of_alike (h : first.Alike second) (chain : FilterChain) :
    chain.resolve first = chain.resolve second := by
  rw [FilterChain.resolve, FilterChain.resolve, chain.base.resolve_eq_of_alike h,
    applyAll_eq_of_alike h]

theorem RangeExpression.resolve_eq_of_alike (h : first.Alike second)
    (range : RangeExpression) (maxRange : Nat) :
    range.resolve maxRange first = range.resolve maxRange second := by
  rw [RangeExpression.resolve, RangeExpression.resolve,
    range.lower.resolve_eq_of_alike h, range.upper.resolve_eq_of_alike h]

theorem Operand.resolve_eq_of_alike (h : first.Alike second) (operand : Operand)
    (maxRange : Nat) :
    operand.resolve maxRange first = operand.resolve maxRange second := by
  cases operand with
  | single subject => exact congrArg Except.ok (subject.resolve_eq_of_alike h)
  | filtered chain => exact chain.resolve_eq_of_alike h
  | between range => exact range.resolve_eq_of_alike h maxRange

theorem Condition.evaluate_eq_of_alike (h : first.Alike second) (maxRange : Nat)
    (condition : Condition) :
    condition.evaluate maxRange first = condition.evaluate maxRange second := by
  induction condition with
  | constant truth => rfl
  | holds operand => rw [evaluate, evaluate, operand.resolve_eq_of_alike h]
  | not condition ih => rw [evaluate, evaluate, ih]
  | and left right ihLeft ihRight => rw [evaluate, evaluate, ihLeft, ihRight]
  | or left right ihLeft ihRight => rw [evaluate, evaluate, ihLeft, ihRight]
  | compare comparison left right =>
      -- Only two plain operands are looked at.
      cases left with
      | holds leftOperand =>
          cases right with
          | holds rightOperand =>
              rw [evaluate, evaluate, leftOperand.resolve_eq_of_alike h,
                rightOperand.resolve_eq_of_alike h]
          | _ => rfl
      | _ => rfl

end TextTemplate
