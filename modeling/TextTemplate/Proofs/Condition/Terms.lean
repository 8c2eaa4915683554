import TextTemplate.Proofs.Condition.Arrangement
import TextTemplate.Proofs.Text.Division

/-!
# Terms and the components that write them

Before a condition is read, each of its components becomes a term: an operator, a
negation or a compiled operand. Nothing of the component's text is lost on the way:
operands keep the text that wrote them, also when they are filter chains or ranges, and
each operator is written by one component only.

## Main results

* `Operand.source_of_compile` — an operand keeps its text.
* `Term.reads_of_mapM` — terms write the components that they were made of.
-/

namespace TextTemplate

open TextTemplate.Text

/-! ## Operands keep their texts -/

/-- A filter chain keeps the text that wrote it. -/
theorem FilterChain.source_of_compile {find : FilterFinder} {source : String}
    {chain : FilterChain} (h : FilterChain.compile find source = .ok chain) :
    chain.source = source := by
  unfold FilterChain.compile at h
  split at h
  · cases h
  · rename_i base pieces _
    cases hFilters : pieces.mapM (FilterChain.compileFilter find) with
    | error error =>
        rw [hFilters] at h
        cases h
    | ok filters =>
        rw [hFilters] at h
        cases h
        rfl

/-- The bounds of a range and the dots between them are the text that wrote it. -/
private theorem RangeExpression.source_of_compile? {find : FilterFinder}
    {source : String} {range : RangeExpression}
    (h : RangeExpression.compile? find source = .ok (some range)) :
    range.source = source := by
  unfold RangeExpression.compile? at h
  split at h
  · rename_i lower upper hPieces
    cases hLower : FilterChain.compile find lower with
    | error error =>
        rw [hLower] at h
        cases h
    | ok lowerChain =>
        cases hUpper : FilterChain.compile find upper with
        | error error =>
            rw [hLower, hUpper] at h
            cases h
        | ok upperChain =>
            rw [hLower, hUpper] at h
            cases h
            rw [RangeExpression.source, FilterChain.source_of_compile hLower,
              FilterChain.source_of_compile hUpper,
              ← eq_of_divideText (by decide) hPieces]
  · cases h

/-- An operand keeps the text that wrote it. -/
theorem Operand.source_of_compile {find : FilterFinder} {source : String}
    {operand : Operand} (h : Operand.compile find source = .ok operand) :
    operand.source = source := by
  unfold Operand.compile at h
  cases hRange : RangeExpression.compile? find source with
  | error error =>
      rw [hRange] at h
      cases h
  | ok range? =>
      rw [hRange] at h
      cases range? with
      | some range =>
          cases h
          exact RangeExpression.source_of_compile? hRange
      | none =>
          cases hChain : FilterChain.compile find source with
          | error error =>
              simp only [hChain, bind, Except.bind] at h
              cases h
          | ok chain =>
              simp only [hChain, bind, Except.bind, pure, Except.pure] at h
              cases h
              exact FilterChain.source_of_compile hChain

/-! ## Operators and their words -/

/-- The component that writes an operator. -/
def InfixOperator.word : InfixOperator → String
  | or => "or"
  | and => "and"
  | compare comparison => comparison.symbol

namespace InfixOperator

theorem word_mem (operator : InfixOperator) : operator.word ∈ Condition.infixWords := by
  cases operator with
  | or => decide
  | and => decide
  | compare comparison => cases comparison <;> decide

theorem ofComponent?_word (operator : InfixOperator) :
    ofComponent? operator.word = some operator := by
  cases operator with
  | or => rfl
  | and => rfl
  | compare comparison => cases comparison <;> rfl

theorem word_of_ofComponent? {component : String} {operator : InfixOperator}
    (h : ofComponent? component = some operator) : operator.word = component := by
  unfold ofComponent? at h
  split at h
  · rename_i hOr
    cases h
    exact hOr.symm
  · split at h
    · rename_i hAnd
      cases h
      exact hAnd.symm
    · obtain ⟨comparison, hSymbol, rfl⟩ := Option.map_eq_some_iff.mp h
      exact Comparison.symbol_of_ofSymbol? hSymbol

/-- Two operators are not written alike. -/
private theorem eq_of_word_eq {first second : InfixOperator}
    (h : first.word = second.word) :
    first = second := by
  have hFirst := ofComponent?_word first
  rw [h, ofComponent?_word second] at hFirst
  exact (Option.some.inj hFirst).symm

/-- Every word between two operands writes an operator. -/
theorem exists_word_eq {component : String} (h : component ∈ Condition.infixWords) :
    ∃ operator : InfixOperator, operator.word = component := by
  simp only [Condition.infixWords, List.mem_cons, List.not_mem_nil, or_false] at h
  rcases h with rfl | rfl | rfl | rfl | rfl | rfl | rfl | rfl
  · exact ⟨and, rfl⟩
  · exact ⟨or, rfl⟩
  · exact ⟨compare .equal, rfl⟩
  · exact ⟨compare .notEqual, rfl⟩
  · exact ⟨compare .greater, rfl⟩
  · exact ⟨compare .greaterOrEqual, rfl⟩
  · exact ⟨compare .less, rfl⟩
  · exact ⟨compare .lessOrEqual, rfl⟩

private theorem ofComponent?_eq_none {component : String}
    (h : component ∉ Condition.infixWords) :
    ofComponent? component = none := by
  cases hOperator : ofComponent? component with
  | none => rfl
  | some operator => exact absurd (word_of_ofComponent? hOperator ▸ operator.word_mem) h

end InfixOperator

/-! ## Terms -/

namespace Term

open Condition

/-- The component that writes a term. -/
def text : Term → String
  | negation => "not"
  | joint text _ => text
  | atom operand => operand.source

/-- Terms that the components which write them are read as. -/
def Reads (find : FilterFinder) : Term → Prop
  | negation => True
  | joint text operator => text = operator.word
  | atom operand =>
    operand.source ∉ operatorWords ∧ Operand.compile find operand.source = .ok operand

/-- What is no operator is read as an operand. -/
theorem ofComponent_of_notMem {find : FilterFinder} {component : String}
    (h : component ∉ operatorWords) :
    ofComponent find component = (Operand.compile find component).map atom := by
  have hNegation : component ≠ "not" := fun hEq => h (hEq ▸ List.mem_cons_self)
  have hInfix : component ∉ infixWords := fun hMem => h (List.mem_cons_of_mem _ hMem)
  rw [ofComponent, if_neg hNegation, InfixOperator.ofComponent?_eq_none hInfix]

/-- A component is read as a term that it writes. -/
private theorem reads_of_ofComponent {find : FilterFinder} {component : String}
    {term : Term} (h : ofComponent find component = .ok term) :
    term.text = component ∧ term.Reads find := by
  by_cases hOperand : component ∉ operatorWords
  · rw [ofComponent_of_notMem hOperand] at h
    cases hCompile : Operand.compile find component with
    | error error =>
        rw [hCompile] at h
        cases h
    | ok operand =>
        rw [hCompile] at h
        cases h
        have hSource := Operand.source_of_compile hCompile
        exact ⟨hSource, hSource.symm ▸ hOperand, hSource.symm ▸ hCompile⟩
  · unfold ofComponent at h
    split at h
    · rename_i hNegation
      cases h
      exact ⟨hNegation.symm, trivial⟩
    · rename_i hNegation
      split at h
      · rename_i operator hOperator
        cases h
        exact ⟨rfl, (InfixOperator.word_of_ofComponent? hOperator).symm⟩
      · rename_i hOperator
        have hInfix :=
          (List.mem_cons.mp (Decidable.not_not.mp hOperand)).resolve_left hNegation
        obtain ⟨operator, rfl⟩ := InfixOperator.exists_word_eq hInfix
        rw [InfixOperator.ofComponent?_word] at hOperator
        cases hOperator

/-- Components are read as terms that write them, in their order. -/
theorem reads_of_mapM {find : FilterFinder} {components : List String}
    {terms : List Term} (h : components.mapM (ofComponent find) = .ok terms) :
    terms.map text = components ∧ ∀ term ∈ terms, term.Reads find := by
  induction components generalizing terms with
  | nil =>
      cases h
      exact ⟨rfl, fun term hMem => absurd hMem List.not_mem_nil⟩
  | cons component rest ih =>
      rw [List.mapM_cons] at h
      cases hFirst : ofComponent find component with
      | error error =>
          rw [hFirst] at h
          cases h
      | ok term =>
          cases hRest : rest.mapM (ofComponent find) with
          | error error =>
              rw [hFirst, hRest] at h
              cases h
          | ok terms =>
              rw [hFirst, hRest] at h
              cases h
              obtain ⟨hText, hReads⟩ := reads_of_ofComponent hFirst
              obtain ⟨hTexts, hAll⟩ := ih hRest
              exact ⟨by rw [List.map_cons, hText, hTexts],
                List.forall_mem_cons.mpr ⟨hReads, hAll⟩⟩

/-- A component is read as a term if it is an operator or compiles as an operand. -/
private theorem exists_ofComponent (find : FilterFinder) (component : String) :
    (∃ term, ofComponent find component = .ok term) ↔
      (component ∉ operatorWords →
        ∃ operand, Operand.compile find component = .ok operand) := by
  by_cases hOperand : component ∉ operatorWords
  · rw [ofComponent_of_notMem hOperand]
    cases Operand.compile find component with
    | error error => simp [hOperand, Except.map]
    | ok operand => simp [Except.map]
  · refine ⟨fun _ h => absurd h hOperand, fun _ => ?_⟩
    cases List.mem_cons.mp (Decidable.not_not.mp hOperand) with
    | inl hNegation => exact ⟨negation, by rw [ofComponent, if_pos hNegation]⟩
    | inr hInfix =>
        obtain ⟨operator, rfl⟩ := InfixOperator.exists_word_eq hInfix
        have hNegation : operator.word ≠ "not" := by
          intro hEq
          rw [hEq] at hInfix
          exact absurd hInfix (by decide)
        exact ⟨joint operator.word operator, by
          rw [ofComponent, if_neg hNegation, InfixOperator.ofComponent?_word]⟩

/-- Components are read as terms if those that are no operators compile as operands. -/
theorem exists_mapM_ofComponent (find : FilterFinder) (components : List String) :
    (∃ terms, components.mapM (ofComponent find) = .ok terms) ↔
      ∀ component ∈ components, component ∉ operatorWords →
        ∃ operand, Operand.compile find component = .ok operand := by
  induction components with
  | nil =>
      exact ⟨fun _ component hMem => absurd hMem List.not_mem_nil, fun _ => ⟨[], rfl⟩⟩
  | cons component rest ih =>
      rw [List.forall_mem_cons, ← ih, ← exists_ofComponent find component,
        List.mapM_cons]
      cases ofComponent find component with
      | error error => simp [bind, Except.bind]
      | ok term =>
          cases rest.mapM (ofComponent find) with
          | error error => simp [bind, Except.bind]
          | ok terms => simp [bind, Except.bind, pure, Except.pure]

/-- Only a negation is written as one. -/
theorem eq_negation_of_text_eq {find : FilterFinder} {term : Term}
    (hReads : term.Reads find) (h : term.text = "not") : term = negation := by
  cases term with
  | negation => rfl
  | joint text operator =>
      have hInfix := operator.word_mem
      rw [← show text = operator.word from hReads, show text = "not" from h] at hInfix
      exact absurd hInfix (by decide)
  | atom operand =>
      have hOperand := hReads.1
      rw [show operand.source = "not" from h] at hOperand
      exact absurd List.mem_cons_self hOperand

/-- Only an operator is written as one. -/
theorem exists_joint_of_text_mem {find : FilterFinder} {term : Term}
    (hReads : term.Reads find) (h : term.text ∈ infixWords) :
    ∃ operator : InfixOperator, term = joint operator.word operator := by
  cases term with
  | negation => exact absurd h (by decide)
  | joint text operator =>
      cases (show text = operator.word from hReads)
      exact ⟨operator, rfl⟩
  | atom operand => exact absurd (List.mem_cons_of_mem _ h) hReads.1

/-- What is not written as an operator is an operand. -/
theorem exists_atom_of_text_notMem {find : FilterFinder} {term : Term}
    (hReads : term.Reads find) (h : term.text ∉ operatorWords) :
    ∃ operand, term = atom operand := by
  cases term with
  | negation => exact absurd List.mem_cons_self h
  | joint text operator =>
      have hWord : text = operator.word := hReads
      exact absurd (List.mem_cons_of_mem _ (hWord ▸ operator.word_mem)) h
  | atom operand => exact ⟨operand, rfl⟩

/-- A component that writes an operator is that operator's term. -/
theorem exists_joint_of_word_mem {find : FilterFinder} {terms : List Term}
    {operator : InfixOperator} (hReads : ∀ term ∈ terms, term.Reads find)
    (h : operator.word ∈ terms.map text) :
    ∃ text, joint text operator ∈ terms := by
  obtain ⟨term, hMem, hText⟩ := List.mem_map.mp h
  obtain ⟨inner, rfl⟩ := exists_joint_of_text_mem (hReads term hMem)
    (hText ▸ operator.word_mem)
  rw [← InfixOperator.eq_of_word_eq hText]
  exact ⟨inner.word, hMem⟩

/-- A component that writes a negation is a negation. -/
theorem negation_mem_of_not_mem {find : FilterFinder} {terms : List Term}
    (hReads : ∀ term ∈ terms, term.Reads find) (h : "not" ∈ terms.map text) :
    negation ∈ terms := by
  obtain ⟨term, hMem, hText⟩ := List.mem_map.mp h
  rw [← eq_negation_of_text_eq (hReads term hMem) hText]
  exact hMem

end Term

end TextTemplate
