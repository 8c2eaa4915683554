import TextTemplate.Condition.Precedence
import TextTemplate.Proofs.List

/-!
# How a row of components is arranged

A condition is written as a row of components. This module says which rows are well
formed and which tree a well-formed row stands for, without any reading from left to
right: the loosest operator of the row divides it, the last one where several bind
alike. A negation takes everything behind it that no `and` or `or` cuts off, also where
it is the right side of a comparison.

## Main definitions

* `Row` — the rows in which operands and operators alternate.
* `arrange` — the tree that a row stands for.
* `words` — the components that a tree is made of, in their order.
-/

namespace TextTemplate

/-- A comparison is read off its symbol. -/
theorem Comparison.ofSymbol?_symbol (comparison : Comparison) :
    Comparison.ofSymbol? comparison.symbol = some comparison := by
  cases comparison <;> rfl

/-- Only its symbol reads as a comparison. -/
theorem Comparison.symbol_of_ofSymbol? {word : String} {comparison : Comparison}
    (h : Comparison.ofSymbol? word = some comparison) : comparison.symbol = word := by
  have hFound := List.find?_some h
  exact eq_of_beq hFound

namespace Condition

/-- The components that stand between two operands. -/
def infixWords : List String := ["and", "or", "==", "!=", ">", ">=", "<", "<="]

/-- The components that are no operands. -/
def operatorWords : List String := "not" :: infixWords

/-- A row of operands, each behind any number of negations, with an infix operator
between two of them. -/
inductive Row : List String → Prop where
  | operand {word : String} (h : word ∉ operatorWords) : Row [word]
  | negation {rest : List String} (hRest : Row rest) : Row ("not" :: rest)
  | joint {word operator : String} {rest : List String} (h : word ∉ operatorWords)
      (hOperator : operator ∈ infixWords) (hRest : Row rest) :
        Row (word :: operator :: rest)

/-- Two rows with an infix operator between them are a row. -/
theorem Row.append {left right : List String} {operator : String} (hLeft : Row left)
    (hOperator : operator ∈ infixWords) (hRight : Row right) :
    Row (left ++ operator :: right) := by
  induction hLeft with
  | operand h => exact .joint h hOperator hRight
  | negation _ ih => exact .negation ih
  | joint h hOther _ ih => exact .joint h hOther ih

/-- A row starts with a negation of a row or with an operand, which is the last
component or has an operator and another row behind it. -/
theorem Row.cons_cases {word : String} {rest : List String} (h : Row (word :: rest)) :
    (word = "not" ∧ Row rest) ∨
      (word ∉ operatorWords ∧
        (rest = [] ∨ ∃ operator tail, rest = operator :: tail ∧ operator ∈ infixWords ∧
          Row tail)) := by
  cases h with
  | operand h => exact .inr ⟨h, .inl rfl⟩
  | negation hRest => exact .inl ⟨rfl, hRest⟩
  | joint h hOperator hRest => exact .inr ⟨h, .inr ⟨_, _, rfl, hOperator, hRest⟩⟩

/-- The components that a tree is made of. -/
def words : Condition → List String
  | constant _ => []
  | holds operand => [operand.source]
  | not condition => "not" :: condition.words
  | and left right => left.words ++ "and" :: right.words
  | or left right => left.words ++ "or" :: right.words
  | compare comparison left right => left.words ++ comparison.symbol :: right.words

/-! ## Dividing a row -/

/-- The components before the first one with a property, that one, and those behind
it. -/
def splitFirst (p : String → Bool) :
    List String → Option (List String × String × List String)
  | [] => none
  | word :: rest =>
    if p word then some ([], word, rest)
    else (splitFirst p rest).map fun (before, found, behind) => (word :: before,
      found, behind)

/-- The components before the last one with a property, that one, and those behind
it. -/
def splitLast (p : String → Bool) :
    List String → Option (List String × String × List String)
  | [] => none
  | word :: rest =>
    match splitLast p rest with
    | some (before, found, behind) => some (word :: before, found, behind)
    | none => if p word then some ([], word, rest) else none

/-- A first division takes nothing away. -/
private theorem eq_of_splitFirst {p : String → Bool} {row before behind : List String}
    {found : String} (h : splitFirst p row = some (before, found, behind)) :
    row = before ++ found :: behind := by
  induction row generalizing before with
  | nil => simp [splitFirst] at h
  | cons word rest ih =>
      rw [splitFirst] at h
      split at h
      · cases h
        rfl
      · simp only [Option.map_eq_some_iff, Prod.mk.injEq, Prod.exists] at h
        obtain ⟨left, word', right, hRest, rfl, rfl, rfl⟩ := h
        rw [ih hRest, List.cons_append]

/-- A last division takes nothing away. -/
private theorem eq_of_splitLast {p : String → Bool} {row before behind : List String}
    {found : String} (h : splitLast p row = some (before, found, behind)) :
    row = before ++ found :: behind := by
  induction row generalizing before with
  | nil => simp [splitLast] at h
  | cons word rest ih =>
      rw [splitLast] at h
      split at h
      · rename_i hRest
        cases h
        rw [ih hRest, List.cons_append]
      · split at h
        · cases h
          rfl
        · cases h

private theorem length_splitFirst {p : String → Bool} {row before behind : List String}
    {found : String} (h : splitFirst p row = some (before, found, behind)) :
    before.length < row.length ∧ behind.length < row.length := by
  rw [eq_of_splitFirst h, List.length_append, List.length_cons]
  omega

private theorem length_splitLast {p : String → Bool} {row before behind : List String}
    {found : String} (h : splitLast p row = some (before, found, behind)) :
    before.length < row.length ∧ behind.length < row.length := by
  rw [eq_of_splitLast h, List.length_append, List.length_cons]
  omega

theorem splitFirst_eq_none {p : String → Bool} {row : List String}
    (h : ∀ word ∈ row, p word = false) : splitFirst p row = none := by
  induction row with
  | nil => rfl
  | cons word rest ih =>
      obtain ⟨hWord, hRest⟩ := List.forall_mem_cons.mp h
      simp [splitFirst, hWord, ih hRest]

theorem splitLast_eq_none {p : String → Bool} {row : List String}
    (h : ∀ word ∈ row, p word = false) : splitLast p row = none := by
  induction row with
  | nil => rfl
  | cons word rest ih =>
      obtain ⟨hWord, hRest⟩ := List.forall_mem_cons.mp h
      simp [splitLast, hWord, ih hRest]

/-- The first component with a property is the one before which there is none. -/
private theorem splitFirst_append {p : String → Bool} {left right : List String}
    {word : String} (hLeft : ∀ other ∈ left, p other = false) (hWord : p word = true) :
    splitFirst p (left ++ word :: right) = some (left, word, right) := by
  induction left with
  | nil => simp [splitFirst, hWord]
  | cons first rest ih =>
      obtain ⟨hFirst, hRest⟩ := List.forall_mem_cons.mp hLeft
      simp [splitFirst, hFirst, ih hRest]

/-- The last component with a property is the one behind which there is none. -/
theorem splitLast_append {p : String → Bool} {left right : List String} {word : String}
    (hWord : p word = true) (hRight : ∀ other ∈ right, p other = false) :
    splitLast p (left ++ word :: right) = some (left, word, right) := by
  induction left with
  | nil => simp [splitLast, hWord, splitLast_eq_none hRight]
  | cons first rest ih => simp [splitLast, ih]

/-! ## The arrangement -/

/-- Whether a component is a comparison. -/
def isComparison (word : String) : Bool :=
  (Comparison.ofSymbol? word).isSome

private theorem isComparison_symbol (comparison : Comparison) :
    isComparison comparison.symbol = true := by
  rw [isComparison, Comparison.ofSymbol?_symbol]
  rfl

/-- What is no operator is no comparison. -/
theorem isComparison_of_notMem {word : String} (h : word ∉ operatorWords) :
    isComparison word = false := by
  cases hSymbol : Comparison.ofSymbol? word with
  | none => simp [isComparison, hSymbol]
  | some comparison =>
      rw [← Comparison.symbol_of_ofSymbol? hSymbol] at h
      cases comparison <;> exact absurd (by decide) h

/-- The tree of a row that no operator divides: its only component, as an operand. -/
def lone (find : FilterFinder) : List String → Option Condition
  | [word] => (Operand.compile find word).toOption.map .holds
  | _ => none

private theorem length_tail_of_head? {row : List String} {word : String}
    (h : row.head? = some word) :
    row.tail.length < row.length := by
  cases row with
  | nil => cases h
  | cons first rest => exact Nat.lt_succ_self _

/-- The tree that a row stands for. The last `or` divides the row, without one the last
`and`. A row with neither that starts with `not` is the negation of what follows.
Otherwise the comparison just before the first `not` divides it, and without any `not`
the last comparison. What no operator divides is an operand. -/
def arrange (find : FilterFinder) (row : List String) : Option Condition :=
  match _hOr : splitLast (· == "or") row with
  | some (left, _, right) => do return .or (← arrange find left) (← arrange find right)
  | none =>
  match _hAnd : splitLast (· == "and") row with
  | some (left, _, right) => do return .and (← arrange find left) (← arrange find right)
  | none =>
  if _hStart : row.head? = some "not" then (arrange find row.tail).map .not
  else
  match _hNot : splitFirst (· == "not") row with
  | some (before, _, negated) => do
    let comparison ← Comparison.ofSymbol? (← before.getLast?)
    return .compare comparison (← arrange find before.dropLast)
      (.not (← arrange find negated))
  | none =>
  match _hComparison : splitLast isComparison row with
  | some (left, symbol, right) => do
    let comparison ← Comparison.ofSymbol? symbol
    return .compare comparison (← arrange find left) (← arrange find right)
  | none => lone find row
  termination_by row.length
  decreasing_by
    · exact (length_splitLast _hOr).1
    · exact (length_splitLast _hOr).2
    · exact (length_splitLast _hAnd).1
    · exact (length_splitLast _hAnd).2
    · exact length_tail_of_head? _hStart
    · exact Nat.lt_of_le_of_lt (List.dropLast_sublist _).length_le
        (length_splitFirst _hNot).1
    · exact (length_splitFirst _hNot).2
    · exact (length_splitLast _hComparison).1
    · exact (length_splitLast _hComparison).2

/-! ## What each kind of row stands for -/

section Equations

variable {find : FilterFinder} {left right : List String}
  {leftSide rightSide : Condition}

/-- The rule of `arrange` as an equation, without the names for the divisions that its
recursion needs. -/
private theorem arrange_eq (find : FilterFinder) (row : List String) :
    arrange find row =
      match splitLast (· == "or") row with
      | some (left, _, right) => do
          return .or (← arrange find left) (← arrange find right)
      | none =>
      match splitLast (· == "and") row with
      | some (left, _, right) => do
          return .and (← arrange find left) (← arrange find right)
      | none =>
      if row.head? = some "not" then (arrange find row.tail).map .not
      else
      match splitFirst (· == "not") row with
      | some (before, _, negated) => do
        let comparison ← Comparison.ofSymbol? (← before.getLast?)
        return .compare comparison (← arrange find before.dropLast)
          (.not (← arrange find negated))
      | none =>
      match splitLast isComparison row with
      | some (left, symbol, right) => do
        let comparison ← Comparison.ofSymbol? symbol
        return .compare comparison (← arrange find left) (← arrange find right)
      | none => lone find row := by
  rw [arrange]
  split
  · rename_i hOr
    simp only [hOr]
  · rename_i hOr
    simp only [hOr]
    split
    · rename_i hAnd
      simp only [hAnd]
    · rename_i hAnd
      simp only [hAnd]
      split
      · rfl
      · split
        · rename_i hNot
          simp only [hNot]
        · rename_i hNot
          simp only [hNot]
          split
          · rename_i hComparison
            simp only [hComparison]
          · rename_i hComparison
            simp only [hComparison]

theorem arrange_or (hRight : "or" ∉ right) (h₁ : arrange find left = some leftSide)
    (h₂ : arrange find right = some rightSide) :
    arrange find (left ++ "or" :: right) = some (.or leftSide rightSide) := by
  rw [arrange_eq, splitLast_append rfl (beq_false_of_notMem hRight)]
  simp [h₁, h₂]

theorem arrange_and (hOr : "or" ∉ left ++ right) (hAnd : "and" ∉ right)
    (h₁ : arrange find left = some leftSide)
    (h₂ : arrange find right = some rightSide) :
    arrange find (left ++ "and" :: right) = some (.and leftSide rightSide) := by
  have hNoOr : "or" ∉ left ++ "and" :: right := by simpa using hOr
  rw [arrange_eq, splitLast_eq_none (beq_false_of_notMem hNoOr),
    splitLast_append rfl (beq_false_of_notMem hAnd)]
  simp [h₁, h₂]

/-- A row that neither `or` nor `and` divides and that starts with `not` is a
negation. -/
theorem arrange_not (hOr : "or" ∉ right) (hAnd : "and" ∉ right) :
    arrange find ("not" :: right) = (arrange find right).map .not := by
  have hNoOr : "or" ∉ "not" :: right := by simpa using hOr
  have hNoAnd : "and" ∉ "not" :: right := by simpa using hAnd
  rw [arrange_eq, splitLast_eq_none (beq_false_of_notMem hNoOr),
    splitLast_eq_none (beq_false_of_notMem hNoAnd)]
  rfl

/-- A negation on the right side of a comparison takes everything behind it. -/
theorem arrange_compare_not {comparison : Comparison} (hStart : left ≠ [])
    (hOr : "or" ∉ left ++ right) (hAnd : "and" ∉ left ++ right) (hNot : "not" ∉ left)
    (h₁ : arrange find left = some leftSide)
    (h₂ : arrange find right = some rightSide) :
    arrange find (left ++ comparison.symbol :: "not" :: right) =
      some (.compare comparison leftSide (.not rightSide)) := by
  have hNoOr : "or" ∉ left ++ comparison.symbol :: "not" :: right := by
    cases comparison <;> simpa [Comparison.symbol] using hOr
  have hNoAnd : "and" ∉ left ++ comparison.symbol :: "not" :: right := by
    cases comparison <;> simpa [Comparison.symbol] using hAnd
  have hHead : (left ++ comparison.symbol :: "not" :: right).head? ≠ some "not" := by
    obtain ⟨first, rest, rfl⟩ := List.exists_cons_of_ne_nil hStart
    rintro hHead
    cases hHead
    exact hNot List.mem_cons_self
  have hBefore : "not" ∉ left ++ [comparison.symbol] := by
    cases comparison <;> simpa [Comparison.symbol] using hNot
  have hSplit : splitFirst (· == "not") (left ++ comparison.symbol :: "not" :: right) =
      some (left ++ [comparison.symbol], "not", right) := by
    rw [← splitFirst_append (beq_false_of_notMem hBefore) rfl]
    simp
  rw [arrange_eq, splitLast_eq_none (beq_false_of_notMem hNoOr),
    splitLast_eq_none (beq_false_of_notMem hNoAnd), if_neg hHead, hSplit]
  simp [Comparison.ofSymbol?_symbol, h₁, h₂]

/-- A row without negations that neither `or` nor `and` divides, in which one operand
stands behind the last comparison. -/
theorem arrange_compare {comparison : Comparison} {word : String} (hOr : "or" ∉ left)
    (hAnd : "and" ∉ left) (hNot : "not" ∉ left) (hWord : word ∉ operatorWords)
    (h₁ : arrange find left = some leftSide)
    (h₂ : arrange find [word] = some rightSide) :
    arrange find (left ++ [comparison.symbol, word]) =
      some (.compare comparison leftSide rightSide) := by
  have hOther : ∀ other ∈ ["or", "and", "not"], other ∉ left →
      other ∉ left ++ [comparison.symbol, word] := by
    intro other hOther hLeft
    have hSymbol : other ≠ comparison.symbol := by
      rintro rfl
      cases comparison <;> simp [Comparison.symbol] at hOther
    have hOperand : other ≠ word := by
      rintro rfl
      exact hWord (by
        simp only [List.mem_cons, List.not_mem_nil, or_false] at hOther
        rcases hOther with rfl | rfl | rfl <;> decide)
    simp [hLeft, hSymbol, hOperand]
  have hNoNot := hOther "not" (by decide) hNot
  have hHead : (left ++ [comparison.symbol, word]).head? ≠ some "not" := by
    intro hHead
    exact hNoNot (List.mem_of_head? hHead)
  have hBehind : ∀ other ∈ [word], isComparison other = false := by
    intro other hMem
    rw [List.mem_singleton.mp hMem]
    exact isComparison_of_notMem hWord
  rw [arrange_eq, splitLast_eq_none (beq_false_of_notMem (hOther "or" (by decide) hOr)),
    splitLast_eq_none (beq_false_of_notMem (hOther "and" (by decide) hAnd)),
    if_neg hHead, splitFirst_eq_none (beq_false_of_notMem hNoNot),
    splitLast_append (isComparison_symbol comparison) hBehind]
  simp [Comparison.ofSymbol?_symbol, h₁, h₂]

theorem arrange_single {word : String} {operand : Operand}
    (hWord : word ∉ operatorWords) (h : Operand.compile find word = .ok operand) :
    arrange find [word] = some (.holds operand) := by
  have hOther : ∀ other ∈ operatorWords, other ∉ [word] := by
    intro other hOther hMem
    rw [List.mem_singleton] at hMem
    exact hWord (hMem ▸ hOther)
  have hHead : [word].head? ≠ some "not" := by
    intro hHead
    exact hOther "not" (by decide) (List.mem_of_head? hHead)
  have hComparison : ∀ other ∈ [word], isComparison other = false := by
    intro other hMem
    rw [List.mem_singleton.mp hMem]
    exact isComparison_of_notMem hWord
  rw [arrange_eq, splitLast_eq_none (beq_false_of_notMem (hOther "or" (by decide))),
    splitLast_eq_none (beq_false_of_notMem (hOther "and" (by decide))), if_neg hHead,
    splitFirst_eq_none (beq_false_of_notMem (hOther "not" (by decide))),
    splitLast_eq_none hComparison]
  rw [lone, h]
  rfl

end Equations

end Condition

end TextTemplate
