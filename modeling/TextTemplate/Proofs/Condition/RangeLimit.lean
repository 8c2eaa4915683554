import TextTemplate.Condition.Basic

/-!
# Expressions and the limit on ranges

The limit on the length of ranges decides only whether a range is an error. An operand
or a condition that evaluates under one limit, or fails for another reason, does exactly
the same under a larger one. A condition cannot turn the error into anything else, and
it looks at its right side only where the left side does not decide, under either limit.

## Main results

* `Operand.resolve_upTo`, `Condition.evaluate_upTo` — a larger limit changes nothing but
  the error of a range that is too long.
-/

namespace TextTemplate

variable {α β : Type}

/-- The second outcome is the first one, unless that is the error of a range longer than
a limit. -/
def UpToRanges (limit : Nat) (first second : Except Error α) : Prop :=
  second = first ∨ ∃ lower upper, first = .error (.rangeTooLarge lower upper limit)

namespace UpToRanges

variable {limit larger : Nat}

theorem refl (outcome : Except Error α) : UpToRanges limit outcome outcome :=
  .inl rfl

theorem bind {first second : Except Error α} {next next' : α → Except Error β}
    (h : UpToRanges limit first second)
    (hNext : ∀ value, UpToRanges limit (next value) (next' value)) :
    UpToRanges limit (first >>= next) (second >>= next') := by
  rcases h with rfl | ⟨lower, upper, rfl⟩
  · cases second with
    | error error => exact refl _
    | ok value => exact hNext value
  · exact .inr ⟨lower, upper, rfl⟩

end UpToRanges

variable {limit larger : Nat} (h : limit ≤ larger) (scopes : Scopes)

include h

private theorem RangeExpression.between_upTo (lower upper : Int64) :
    UpToRanges limit (between limit lower upper) (between larger lower upper) := by
  unfold between
  by_cases hFits : ((itemCount? lower upper).any fun count => count.toNat ≤
    limit) = true
  · have hLarger : ((itemCount? lower upper).any fun count => count.toNat ≤
        larger) = true := by
      obtain ⟨count, hCount, hLimit⟩ := (Option.any_eq_true _ _).mp hFits
      exact (Option.any_eq_true _ _).mpr
        ⟨count, hCount, decide_eq_true (Nat.le_trans (of_decide_eq_true hLimit) h)⟩
    rw [if_pos hFits, if_pos hLarger]
    exact .refl _
  · rw [if_neg hFits]
    exact .inr ⟨lower, upper, rfl⟩

theorem RangeExpression.resolve_upTo (range : RangeExpression) :
    UpToRanges limit (range.resolve limit scopes) (range.resolve larger scopes) := by
  unfold RangeExpression.resolve
  refine (UpToRanges.refl _).bind fun first => ?_
  cases first with
  | int lower =>
      refine (UpToRanges.refl _).bind fun last => ?_
      cases last with
      | int upper => exact between_upTo h lower upper
      | _ => exact .refl _
  | _ => exact .refl _

theorem Operand.resolve_upTo (operand : Operand) :
    UpToRanges limit (operand.resolve limit scopes)
      (operand.resolve larger scopes) := by
  cases operand with
  | single subject => exact .refl _
  | filtered chain => exact .refl _
  | between range => exact range.resolve_upTo h scopes

theorem Condition.evaluate_upTo (condition : Condition) :
    UpToRanges limit (condition.evaluate limit scopes)
      (condition.evaluate larger scopes) := by
  induction condition with
  | constant truth => exact .refl _
  | holds operand => exact (operand.resolve_upTo h scopes).bind fun value => .refl _
  | not condition ih => exact ih.bind fun truth => .refl _
  | and left right ihLeft ihRight =>
      refine ihLeft.bind fun truth => ?_
      cases truth with
      | true => exact ihRight
      | false => exact .refl _
  | or left right ihLeft ihRight =>
      refine ihLeft.bind fun truth => ?_
      cases truth with
      | true => exact .refl _
      | false => exact ihRight
  | compare comparison left right =>
      -- Only two plain operands are looked at.
      cases left with
      | holds leftOperand =>
          cases right with
          | holds rightOperand =>
              refine (leftOperand.resolve_upTo h scopes).bind fun leftValue => ?_
              exact (rightOperand.resolve_upTo h scopes).bind fun rightValue => .refl _
          | _ => exact .refl _
      | _ => exact .refl _

end TextTemplate
