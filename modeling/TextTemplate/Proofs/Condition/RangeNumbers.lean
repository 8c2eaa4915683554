import Mathlib
import TextTemplate.Operand

/-!
# The numbers of a range

Ranges are counted in words of 64 bits: the distance between the bounds without a sign,
the number of items as one more, and the items themselves with one, each from the item
behind it. Words wrap around, and the bounds may stand at the ends of the signed range,
which are further apart than a signed word can say and enclose one item more than an
unsigned word can. This module proves that the words nevertheless say what they should:
an operation on them gives the result in the integers, with the one exception of the
number of items between the two ends, and there the range is refused.

## Main results

* `RangeExpression.toNat_distance`, `RangeExpression.toNat_itemCount?` — the distance
  and the number of items.
* `RangeExpression.counts_numbers` — the items.
* `RangeExpression.resolve_counts` — ranges under a limit.
-/

namespace TextTemplate.RangeExpression

/-! ## How far, and how many -/

/-- A signed word is the word without the sign, taken around zero. -/
private theorem toInt_eq_bmod (number : Int64) :
    number.toInt = (number.toUInt64.toNat : Int).bmod (2 ^ 64) :=
  BitVec.toInt_eq_toNat_bmod number.toBitVec

/-- Without signs, the smaller of two words is taken from the larger one without a
loss. -/
private theorem toNat_sub_of_lt {smaller larger : Int64} (h : smaller < larger) :
    (larger.toUInt64 - smaller.toUInt64).toNat =
      (larger.toInt - smaller.toInt).toNat := by
  have hSmaller := toInt_eq_bmod smaller
  have hLarger := toInt_eq_bmod larger
  have hSmallerWord := smaller.toUInt64.toNat_lt
  have hLargerWord := larger.toUInt64.toNat_lt
  rw [Int64.lt_iff_toInt_lt] at h
  rw [UInt64.toNat_sub]
  simp only [Int.bmod] at hSmaller hLarger
  omega

/-- The distance of the bounds is that of the integers. -/
theorem toNat_distance (lower upper : Int64) :
    (distance lower upper).toNat = (lower.toInt - upper.toInt).natAbs := by
  unfold distance
  by_cases hUp : lower < upper
  · rw [if_pos hUp, toNat_sub_of_lt hUp]
    rw [Int64.lt_iff_toInt_lt] at hUp
    omega
  · rw [if_neg hUp]
    by_cases hDown : upper < lower
    · rw [toNat_sub_of_lt hDown]
      rw [Int64.lt_iff_toInt_lt] at hDown
      omega
    · have hSame : lower.toInt = upper.toInt := by
        rw [Int64.lt_iff_toInt_lt] at hUp hDown
        omega
      rw [Int64.toInt_inj.mp hSame, UInt64.sub_self]
      simp

/-- The number of items is one more than the distance, unless it does not fit a word. -/
theorem toNat_itemCount? (lower upper : Int64) :
    (itemCount? lower upper).map UInt64.toNat =
      if (lower.toInt - upper.toInt).natAbs + 1 < 2 ^ 64
        then some ((lower.toInt - upper.toInt).natAbs + 1)
      else none := by
  have hWord := (distance lower upper).toNat_lt
  have hSum : (distance lower upper + 1).toNat =
      ((distance lower upper).toNat + 1) % 2 ^ 64 :=
    UInt64.toNat_add _ _
  have hZero : distance lower upper + 1 = 0 ↔ (distance lower upper + 1).toNat = 0 :=
    UInt64.toNat_inj.symm
  rw [← toNat_distance]
  unfold itemCount?
  by_cases hFits : (distance lower upper).toNat + 1 < 2 ^ 64
  · have hCount : ¬ distance lower upper + 1 = 0 := by
      rw [hZero]
      omega
    rw [if_pos hFits, if_neg hCount, Option.map_some, hSum, Nat.mod_eq_of_lt hFits]
  · have hCount : distance lower upper + 1 = 0 := by
      rw [hZero]
      omega
    rw [if_neg hFits, if_pos hCount, Option.map_none]

/-! ## Step by step -/

/-- Each number is a step further on than the one in front of it, as integers. -/
def Steps (step : Int) (numbers : List Int64) : Prop :=
  numbers.IsChain fun number next => next.toInt = number.toInt + step

/-- A step back that stays in the signed range. -/
private theorem toInt_sub_of_room {number step : Int64}
    (hLeast : -2 ^ 63 ≤ number.toInt - step.toInt)
    (hMost : number.toInt - step.toInt < 2 ^ 63) :
    (number - step).toInt = number.toInt - step.toInt := by
  rw [Int64.toInt_sub]
  exact Int.bmod_eq_of_le (by omega) (by omega)

@[simp] theorem length_numbersTo (step : Int64) (behind : List Int64) (last : Int64)
    (steps : Nat) :
    (numbersTo step behind last steps).length = steps + 1 + behind.length := by
  induction steps generalizing behind last with
  | zero => simp [numbersTo, Nat.add_comm]
  | succ steps ih =>
      rw [numbersTo, ih, List.length_cons]
      omega

@[simp] theorem getLast?_numbersTo (step : Int64) (behind : List Int64) (last : Int64)
    (steps : Nat) :
    (numbersTo step behind last steps).getLast? = (last :: behind).getLast? := by
  induction steps generalizing behind last with
  | zero => rfl
  | succ steps ih => rw [numbersTo, ih, List.getLast?_cons_cons]

/-- Where every step back stays in the signed range, the numbers are a step apart, and
the first one is as many steps before the last one as were taken. -/
private theorem steps_numbersTo {step : Int64} (steps : Nat) (behind : List Int64)
    (last : Int64)
    (hRoom : ∀ taken ≤ steps, -2 ^ 63 ≤ last.toInt - (taken : Int) * step.toInt ∧
      last.toInt - (taken : Int) * step.toInt < 2 ^ 63)
    (hBehind : Steps step.toInt (last :: behind)) :
    Steps step.toInt (numbersTo step behind last steps) ∧
      ∃ first, (numbersTo step behind last steps).head? = some first ∧
        first.toInt = last.toInt - (steps : Int) * step.toInt := by
  induction steps generalizing behind last with
  | zero => exact ⟨hBehind, last, rfl, by simp⟩
  | succ steps ih =>
      obtain ⟨hLeast, hMost⟩ := hRoom 1 (by omega)
      rw [Int.natCast_one, Int.one_mul] at hLeast hMost
      have hBack := toInt_sub_of_room hLeast hMost
      have hFurther : ∀ taken : Nat, (last - step).toInt - (taken : Int) * step.toInt =
          last.toInt - ((taken + 1 : Nat) : Int) * step.toInt := by
        intro taken
        rw [hBack, Int.natCast_succ, Int.add_mul, Int.one_mul]
        omega
      have hChain : Steps step.toInt ((last - step) :: last :: behind) :=
        List.isChain_cons_cons.mpr ⟨by omega, hBehind⟩
      obtain ⟨hSteps, first, hHead, hFirst⟩ := ih (last :: behind) (last - step)
        (fun taken hTaken => by
          rw [hFurther]
          exact hRoom (taken + 1) (by omega)) hChain
      exact ⟨hSteps, first, hHead, hFirst.trans (hFurther steps)⟩

/-! ## From one bound to the other -/

/-- Numbers that count from one bound to the other: both are among them, and between
them each number is one more than the number in front of it, or one less when the second
bound is the smaller one. -/
structure Counts (lower upper : Int64) (numbers : List Int64) : Prop where
  length_eq : numbers.length = (lower.toInt - upper.toInt).natAbs + 1
  head_eq : numbers.head? = some lower
  last_eq : numbers.getLast? = some upper
  steps : Steps (if lower ≤ upper then 1 else -1) numbers

/-- The items of a range count from one bound to the other. -/
theorem counts_numbers (lower upper : Int64) :
    Counts lower upper (numbers lower upper) := by
  have hLower := lower.le_toInt
  have hLower' := lower.toInt_lt
  have hUpper := upper.le_toInt
  have hUpper' := upper.toInt_lt
  have hStep : (if upper < lower then -1 else 1 : Int64).toInt = if lower ≤ upper then 1
      else -1 := by
    by_cases hDown : upper < lower
    · rw [if_pos hDown, if_neg (Int64.not_le.mpr hDown)]
      rfl
    · rw [if_neg hDown, if_pos (Int64.not_lt.mp hDown)]
      rfl
  have hSign := hStep
  simp only [Int64.le_iff_toInt_le] at hSign
  -- Every number on the way back from the second bound is between the bounds, and so in
  -- the signed range.
  have hRoom : ∀ taken ≤ (lower.toInt - upper.toInt).natAbs,
      -2 ^ 63 ≤ upper.toInt - (taken : Int) * (if upper < lower then -1
        else 1 : Int64).toInt ∧
        upper.toInt - (taken : Int) * (if upper < lower then -1 else 1 : Int64).toInt <
          2 ^ 63 := by
    intro taken hTaken
    rw [hSign]
    split <;> omega
  obtain ⟨hSteps, first, hHead, hFirst⟩ :=
    steps_numbersTo _ [] upper hRoom (.singleton upper)
  have hStart : first.toInt = lower.toInt := by
    rw [hFirst, hSign]
    split <;> omega
  unfold numbers
  rw [toNat_distance]
  exact ⟨by simp, hHead.trans (congrArg some (Int64.toInt_inj.mp hStart)), by simp,
    hStep ▸ hSteps⟩

/-- The sequence between two bounds is refused exactly if it is longer than the
limit. -/
private theorem between_eq {maxRange : Nat} (hLimit : maxRange < 2 ^ 64)
    (lower upper : Int64) :
    between maxRange lower upper =
      if (lower.toInt - upper.toInt).natAbs + 1 ≤ maxRange then
        .ok (.sequence ((numbers lower upper).map .int))
      else .error (.rangeTooLarge lower upper maxRange) := by
  have hCount := toNat_itemCount? lower upper
  unfold between
  by_cases hFits : (lower.toInt - upper.toInt).natAbs + 1 ≤ maxRange
  · rw [if_pos (by omega), Option.map_eq_some_iff] at hCount
    obtain ⟨count, hSome, hLength⟩ := hCount
    rw [hSome, if_pos hFits, if_pos (by simpa [hLength] using hFits)]
  · rw [if_neg hFits, if_neg]
    intro hAny
    obtain ⟨count, hSome, hLess⟩ := (Option.any_eq_true _ _).mp hAny
    rw [hSome, Option.map_some] at hCount
    split at hCount
    · rw [Option.some.inj hCount, decide_eq_true_eq] at hLess
      exact hFits hLess
    · cases hCount

/-- A range whose bounds are whole numbers of 64 bits, under any limit that is a number
of 64 bits without a sign. With the distance of the bounds taken among the integers, the
range has one item more than that. It has a value exactly if the limit allows so many:
the sequence that counts from the one bound to the other. Otherwise it is an error. The
distance in words is the distance, and the number of items in words is their number, or
is known not to fit; so no operation on words loses anything, and neither does a step
from one item to the next. -/
theorem resolve_counts (range : RangeExpression) (scopes : Scopes) {maxRange : Nat}
    (hLimit : maxRange < 2 ^ 64) {lower upper : Int64}
    (hLower : range.lower.resolve scopes = .ok (.int lower))
    (hUpper : range.upper.resolve scopes = .ok (.int upper)) :
    let length := (lower.toInt - upper.toInt).natAbs + 1
    (length ≤ maxRange → ∃ numbers : List Int64, Counts lower upper numbers ∧
        range.resolve maxRange scopes = .ok (.sequence (numbers.map .int))) ∧
      (maxRange < length → range.resolve maxRange scopes =
        .error (.rangeTooLarge lower upper maxRange)) ∧
      (distance lower upper).toNat + 1 = length ∧
      (itemCount? lower upper).map UInt64.toNat = if length < 2 ^ 64 then some length
        else none := by
  intro length
  have hRange : range.resolve maxRange scopes = between maxRange lower upper := by
    rw [resolve, hLower, hUpper]
    rfl
  rw [hRange, between_eq hLimit]
  refine ⟨fun hFits => ⟨numbers lower upper, counts_numbers lower upper, if_pos hFits⟩,
    fun hLong => ?_, congrArg (· + 1) (toNat_distance lower upper),
      toNat_itemCount? lower upper⟩
  exact if_neg (Nat.not_le.mpr hLong)

/-- The range between the two ends has one item more than the largest limit allows. Down
to the lower end, the last step is not followed by another one. -/
theorem resolve_counts_of_ends :
    let bound : Int64 → FilterChain :=
  fun number => ⟨"bound", ⟨"bound", .literal (.int number)⟩, []⟩
    RangeExpression.resolve ⟨bound Int64.minValue, bound Int64.maxValue⟩
      (2 ^ 64 - 1) [] =
        .error (.rangeTooLarge Int64.minValue Int64.maxValue (2 ^ 64 - 1)) ∧
      ∃ numbers, Counts (Int64.minValue + 2) Int64.minValue numbers ∧
        RangeExpression.resolve ⟨bound (Int64.minValue + 2),
          bound Int64.minValue⟩ 3 [] = .ok (.sequence (numbers.map .int)) := by
  intro bound
  exact ⟨(resolve_counts ⟨bound Int64.minValue, bound Int64.maxValue⟩ []
      (by decide) rfl rfl).2.1 (by decide),
    (resolve_counts ⟨bound (Int64.minValue + 2), bound Int64.minValue⟩ []
      (by decide) rfl rfl).1 (by decide)⟩

end TextTemplate.RangeExpression
