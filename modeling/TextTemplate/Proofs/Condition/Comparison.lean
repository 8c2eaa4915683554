import Mathlib
import TextTemplate.Condition.Basic
import TextTemplate.Proofs.Value.Equality

/-!
# The comparisons agree

Equality, order and the six comparisons of conditions are three definitions: equality
follows a value into its parts, the order knows whole numbers and texts, and the
comparisons ask the one or the other. Among values without floating-point numbers an
order is only that of two whole numbers or of two texts, where it is linear and level
exactly for equal ones. So the comparisons agree with each other as they do for numbers,
except that most values have no order: then neither is less and neither is greater,
equal or not.

## Main results

* `compare?_eq_some_iff` — which values have an order.
* `OperatorsAgree` — how the six comparisons of two values hang together.
* `comparisons_agree` — the laws, and the comparisons of two operands.
-/

namespace TextTemplate

namespace Value

/-! ## The order of values -/

/-- Two whole numbers or two texts stand in an order. -/
inductive Ordered : Value → Value → Ordering → Prop where
  | int (x y : Int64) : Ordered (int x) (int y) (compare x y)
  | string (s t : String) : Ordered (string s) (string t) (compare s t)

/-- Values without floating-point numbers have the order of whole numbers or of texts,
or none. -/
theorem compare?_eq_some_iff {a b : Value} (hA : a.IsFloatFree) (hB : b.IsFloatFree)
    {order : Ordering} :
    a.compare? b = some order ↔ Ordered a b order := by
  constructor
  · intro h
    cases a with
    | float number => exact absurd hA (not_isFloatFree_float number)
    | int x =>
        cases b with
        | float number => exact absurd hB (not_isFloatFree_float number)
        | int y =>
            cases h
            exact .int x y
        | _ => cases h
    | string s =>
        cases b with
        | string t =>
            cases h
            exact .string s t
        | _ => cases h
    | _ => cases h
  · rintro (⟨x, y⟩ | ⟨s, t⟩) <;> rfl

theorem Ordered.swap {a b : Value} {order : Ordering} (h : Ordered a b order) :
    Ordered b a order.swap := by
  cases h with
  | int x y =>
      rw [← Std.OrientedOrd.eq_swap]
      exact .int y x
  | string s t =>
      rw [← Std.OrientedOrd.eq_swap]
      exact .string t s

/-- Two comparisons that point the same way, or of which one is level, make a third. -/
private theorem compare_then {α : Type} [Ord α] [Std.TransOrd α] [Std.LawfulEqOrd α]
    {x y z : α}
    (h : compare x y = compare y z ∨ compare x y = .eq ∨ compare y z = .eq) :
    compare x z = (compare x y).then (compare y z) := by
  rcases h with h | h | h
  · cases hFirst : compare x y with
    | lt => exact Std.TransCmp.lt_trans hFirst (h ▸ hFirst)
    | eq =>
        rw [Std.LawfulEqOrd.eq_of_compare hFirst]
        rfl
    | gt => exact Std.TransCmp.gt_trans hFirst (h ▸ hFirst)
  · rw [h, Std.LawfulEqOrd.eq_of_compare h]
    rfl
  · rw [h, ← Std.LawfulEqOrd.eq_of_compare h]
    cases compare x y <;> rfl

theorem Ordered.trans {a b c : Value} {first second : Ordering}
    (hFirst : Ordered a b first) (hSecond : Ordered b c second)
    (h : first = second ∨ first = .eq ∨ second = .eq) :
    Ordered a c (first.then second) := by
  cases hFirst with
  | int x y =>
      cases hSecond with
      | int _ z =>
          rw [← compare_then h]
          exact .int x z
  | string s t =>
      cases hSecond with
      | string _ u =>
          rw [← compare_then h]
          exact .string s u

/-- Values that stand in an order are level exactly if they are equal. -/
theorem Ordered.eq_iff {a b : Value} {order : Ordering} (h : Ordered a b order) :
    order = .eq ↔ a.same b = true := by
  cases h with
  | int x y => rw [Std.LawfulEqOrd.compare_eq_iff_eq, same, beq_iff_eq]
  | string s t => rw [Std.LawfulEqOrd.compare_eq_iff_eq, same, beq_iff_eq]

/-- The laws of equality and order among values of a kind. -/
structure LawfulAmong (kind : Value → Prop) : Prop where
  same_refl {a : Value} : kind a → a.same a = true
  same_symm {a b : Value} : kind a → kind b → a.same b = true → b.same a = true
  same_trans {a b c : Value} : kind a → kind b → kind c → a.same b = true →
    b.same c = true → a.same c = true
  compare_swap {a b : Value} : kind a → kind b →
    b.compare? a = (a.compare? b).map Ordering.swap
  compare_trans {a b c : Value} {first second : Ordering} : kind a → kind b → kind c →
    a.compare? b = some first → b.compare? c = some second → first = second ∨
      first = .eq ∨ second = .eq → a.compare? c = some (first.then second)
  compare_eq {a b : Value} : kind a → kind b →
    (a.compare? b = some .eq ↔ (a.compare? b).isSome = true ∧ a.same b = true)

theorem lawfulAmong_isFloatFree : LawfulAmong IsFloatFree where
  same_refl := same_self
  same_symm hA hB h := (same_comm hB hA).trans h
  same_trans := same_trans
  compare_swap {a b} hA hB := by
    have hSwap : ∀ {a b : Value} {order}, a.IsFloatFree → b.IsFloatFree →
        a.compare? b = some order → b.compare? a = some order.swap := fun hA hB h =>
      (compare?_eq_some_iff hB hA).mpr ((compare?_eq_some_iff hA hB).mp h).swap
    cases h : a.compare? b with
    | some order => exact hSwap hA hB h
    | none =>
        cases hBack : b.compare? a with
        | none => rfl
        | some order =>
            rw [hSwap hB hA hBack] at h
            cases h
  compare_trans hA hB hC hFirst hSecond h :=
    (compare?_eq_some_iff hA hC).mpr
      (((compare?_eq_some_iff hA hB).mp hFirst).trans
        ((compare?_eq_some_iff hB hC).mp hSecond) h)
  compare_eq {a b} hA hB := by
    cases h : a.compare? b with
    | none => simp
    | some order =>
        have hOrder := ((compare?_eq_some_iff hA hB).mp h).eq_iff
        simp [hOrder]

end Value

/-! ## The comparisons of conditions -/

/-- How the truth of the six comparisons of two values hangs together. -/
structure OperatorsAgree (a b : Value) (truth : Comparison → Bool) : Prop where
  equal : truth .equal = a.same b
  notEqual : truth .notEqual = !truth .equal
  one_of_three : (a.compare? b).isSome = true →
    [truth .less, truth .equal, truth .greater].count true = 1
  lessOrEqual : (a.compare? b).isSome = true →
    truth .lessOrEqual = (truth .less || truth .equal)
  greaterOrEqual : (a.compare? b).isSome = true →
    truth .greaterOrEqual = (truth .greater || truth .equal)
  unordered : a.compare? b = none → truth .less = false ∧ truth .lessOrEqual = false ∧
    truth .greater = false ∧ truth .greaterOrEqual = false

/-- Without a floating-point number an order settles all comparisons, and where there is
none only equality holds. -/
private theorem operatorsAgree_holds {a b : Value} (hA : a.IsFloatFree)
    (hB : b.IsFloatFree) :
    OperatorsAgree a b fun comparison => comparison.holds a b := by
  have hEqual := Value.lawfulAmong_isFloatFree.compare_eq hA hB
  refine ⟨rfl, rfl, fun hOrder => ?_, fun hOrder => ?_, fun hOrder => ?_,
    fun hNone => ?_⟩
  case refine_4 => simp [Comparison.holds, hNone]
  all_goals
    obtain ⟨order, hCompare⟩ := Option.isSome_iff_exists.mp hOrder
    rw [hCompare] at hEqual
    cases order <;> simp_all [Comparison.holds]

private theorem Condition.evaluate_compare {maxRange : Nat} {scopes : Scopes}
    {left right : Operand} {a b : Value} (hLeft : left.resolve maxRange scopes = .ok a)
    (hRight : right.resolve maxRange scopes = .ok b) (comparison : Comparison) :
    (compare comparison (holds left) (holds right)).evaluate maxRange scopes =
      .ok (comparison.holds a b) := by
  rw [evaluate, hLeft, hRight]
  rfl

/-- Among values without floating-point numbers equality is an equivalence, the order is
reversed when its sides are, goes through, and is level exactly if there is one and the
values are equal. So the six comparisons of two operands with such values agree: one
side differs from the other unless it equals it; where the values have an order exactly
one of less, equal and greater holds, and the others follow from these; and where they
have none, neither side is less or greater or as great. -/
theorem comparisons_agree :
    Value.LawfulAmong Value.IsFloatFree ∧
    ∀ (maxRange : Nat) (scopes : Scopes) (left right : Operand) (a b : Value),
      left.resolve maxRange scopes = .ok a → right.resolve maxRange scopes = .ok b →
      a.IsFloatFree → b.IsFloatFree →
      ∃ truth : Comparison → Bool, OperatorsAgree a b truth ∧ ∀ comparison,
        (Condition.compare comparison (.holds left) (.holds right)).evaluate
          maxRange scopes =
          .ok (truth comparison) := by
  refine ⟨Value.lawfulAmong_isFloatFree,
    fun maxRange scopes left right a b hLeft hRight hA hB => ?_⟩
  exact ⟨_, operatorsAgree_holds hA hB, Condition.evaluate_compare hLeft hRight⟩

/-- A record that inherits a field equals a positional one that has it as its own, and
neither is as great. -/
theorem comparisons_agree_of_inherited_field :
    let derived : Value :=
  .record "Point" false [[("x", .int 1)], [("y", .sequence [.string "two", .nil])]]
    let flat : Value :=
      .record "Point" true [[("x", .int 1), ("y", .sequence [.string "two", .nil])]]
    let scopes : Scopes := [Mapping.singleton "a" derived, Mapping.singleton "b" flat]
    let left : Operand := .single ⟨"a", .path ["a"]⟩
    let right : Operand := .single ⟨"b", .path ["b"]⟩
    (left.resolve 10 scopes = .ok derived ∧ right.resolve 10 scopes = .ok flat ∧
        derived.IsFloatFree ∧ flat.IsFloatFree) ∧
      (Condition.compare .equal (.holds left) (.holds right)).evaluate 10
      scopes = .ok true ∧
      (Condition.compare .lessOrEqual (.holds left) (.holds right)).evaluate 10 scopes =
        .ok false := by
  intro derived flat scopes left right
  have hLeft : left.resolve 10 scopes = .ok derived := rfl
  have hRight : right.resolve 10 scopes = .ok flat := rfl
  have hDerived : derived.IsFloatFree := by
    simp [derived, Value.IsFloatFree, Value.nested, Value.nestedLineage,
      Value.nestedFields, Value.nestedItems, Value.isFloat]
  have hFlat : flat.IsFloatFree := by
    simp [flat, Value.IsFloatFree, Value.nested, Value.nestedLineage,
      Value.nestedFields, Value.nestedItems, Value.isFloat]
  obtain ⟨truth, hAgree, hTruth⟩ :=
    comparisons_agree.2 10 scopes left right derived flat hLeft hRight hDerived hFlat
  have hNone : derived.compare? flat = none := rfl
  refine ⟨⟨hLeft, hRight, hDerived, hFlat⟩, ?_, ?_⟩
  · rw [hTruth, hAgree.equal]
    rfl
  · rw [hTruth, (hAgree.unordered hNone).2.1]

end TextTemplate
