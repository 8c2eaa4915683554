import TextTemplate.Condition.Precedence
import TextTemplate.Node

/-!
# Filters in expressions

The filters of an expression are found by name when it is compiled, and the expression
holds the filters themselves. This module follows them from where they are found to
where they end up: a property of all filters that can be found is a property of all
filters in a chain, in the bounds of a range and in every operand of a condition. And
since nothing else is asked for on the way, compiling fails with a fault or with a name
that nobody knows, and in no other way.

Both are said of an outcome at once: by what its value is like and of which kind its
error is.

## Main definitions

* `EndsIn`, `Checked` — an outcome with a value of some kind or an error of some kind.
* `Node.Uses` — all filters in the expressions of a node satisfy a property.

## Main results

* `FilterChain.checked_compile`, `Operand.checked_compile`, `Condition.checked_parse` —
  what compiling comes to.
-/

namespace TextTemplate

variable {α β : Type}

/-! ## Outcomes -/

/-- The value of the outcome is one of these values, or its error is one of
these errors. -/
def EndsIn (errors : Error → Prop) (values : α → Prop) : Except Error α → Prop
  | .ok value => values value
  | .error error => errors error

namespace EndsIn

variable {errors : Error → Prop}

theorem mono {more : Error → Prop} {values others : α → Prop} {outcome : Except Error α}
    (h : EndsIn errors values outcome) (hErrors : ∀ error, errors error → more error)
    (hValues : ∀ value, values value → others value) : EndsIn more others outcome := by
  cases outcome with
  | ok value => exact hValues value h
  | error error => exact hErrors error h

theorem bind {values : α → Prop} {others : β → Prop} {first : Except Error α}
    {next : α → Except Error β} (hFirst : EndsIn errors values first)
    (hNext : ∀ value, values value → EndsIn errors others (next value)) :
    EndsIn errors others (first >>= next) := by
  cases first with
  | ok value => exact hNext value hFirst
  | error error => exact hFirst

theorem map {values : α → Prop} {others : β → Prop} {outcome : Except Error α}
    {change : α → β} (h : EndsIn errors values outcome)
    (hChange : ∀ value, values value → others (change value)) :
    EndsIn errors others (outcome.map change) := by
  cases outcome with
  | ok value => exact hChange value h
  | error error => exact h

/-- Values of one kind after the other, as long as none fails. -/
theorem mapM {values : β → Prop} {change : α → Except Error β}
    (h : ∀ item, EndsIn errors values (change item)) (items : List α) :
    EndsIn errors (fun results => ∀ result ∈ results,
      values result) (items.mapM change) := by
  induction items with
  | nil => exact fun result hResult => absurd hResult List.not_mem_nil
  | cons item rest ih =>
      rw [List.mapM_cons]
      exact (h item).bind fun first hFirst => ih.bind fun others hOthers =>
        List.forall_mem_cons.mpr ⟨hFirst, hOthers⟩

end EndsIn

/-- The outcome has one of these values, or the template is written wrongly. -/
abbrev Checked (values : α → Prop) (outcome : Except Error α) : Prop :=
  EndsIn (fun error => error.isSyntactic = true) values outcome

/-! ## Filters in expressions -/

/-- All filters of the chain satisfy a property. -/
def FilterChain.Uses (known : Filter → Prop) (chain : FilterChain) : Prop :=
  ∀ applied ∈ chain.filters, known applied.filter

/-- All filters of both bounds do. -/
def RangeExpression.Uses (known : Filter → Prop) (range : RangeExpression) : Prop :=
  range.lower.Uses known ∧ range.upper.Uses known

/-- All filters of the operand do. -/
def Operand.Uses (known : Filter → Prop) : Operand → Prop
  | .single _ => True
  | .filtered chain => chain.Uses known
  | .between range => range.Uses known

/-- All filters of the condition do. -/
def Condition.Uses (known : Filter → Prop) : Condition → Prop
  | .constant _ => True
  | .holds operand => operand.Uses known
  | .not condition => condition.Uses known
  | .and left right => left.Uses known ∧ right.Uses known
  | .or left right => left.Uses known ∧ right.Uses known
  | .compare _ left right => left.Uses known ∧ right.Uses known

/-- All filters of the operand that the term holds do. -/
def Term.Uses (known : Filter → Prop) : Term → Prop
  | .atom operand => operand.Uses known
  | _ => True

/-- All filters in the expressions of the node do, not counting the nodes inside. What
an application's own tag renders is not known. -/
def Node.Uses (known : Filter → Prop) : Node → Prop
  | .output operand => operand.Uses known
  | .loop _ source condition _ _ =>
    source.Uses known ∧ ∀ test ∈ condition, test.Uses known
  | .choice branches => ∀ branch ∈ branches, ∀ test ∈ branch.condition, test.Uses known
  | .filtered chain _ => chain.Uses known
  | .custom _ => False
  | _ => True

/-- The filters that are found satisfy a property, and the others are unknown. -/
def FilterFinder.Checks (find : FilterFinder) (known : Filter → Prop) : Prop :=
  ∀ name, Checked known (find name)

section Expressions

variable {known : Filter → Prop} {find : FilterFinder} (hFind : find.Checks known)

include hFind

private theorem FilterChain.checked_compileFilter (piece : String) :
    Checked (fun applied => known applied.filter)
      (FilterChain.compileFilter find piece) :=
  (hFind (readFilter piece).1).bind fun _ hFilter => hFilter

theorem FilterChain.checked_compile (source : String) :
    Checked (FilterChain.Uses known) (FilterChain.compile find source) := by
  unfold FilterChain.compile
  split
  · exact rfl
  · exact (EndsIn.mapM (checked_compileFilter hFind) _).bind
      fun filters hFilters => hFilters

private theorem RangeExpression.checked_compile? (source : String) :
    Checked (fun range => ∀ found ∈ range, found.Uses known)
      (RangeExpression.compile? find source) := by
  unfold RangeExpression.compile?
  split
  · rename_i lower upper _
    refine (FilterChain.checked_compile hFind lower).bind fun first hFirst => ?_
    refine (FilterChain.checked_compile hFind upper).bind fun last hLast => ?_
    rintro _ ⟨⟩
    exact ⟨hFirst, hLast⟩
  · exact fun found hFound => nomatch hFound

theorem Operand.checked_compile (source : String) :
    Checked (Operand.Uses known) (Operand.compile find source) := by
  refine (RangeExpression.checked_compile? hFind source).bind fun range hRange => ?_
  cases range with
  | some range => exact hRange range rfl
  | none =>
      exact (FilterChain.checked_compile hFind source).bind fun chain hChain => hChain

private theorem Term.checked_ofComponent (component : String) :
    Checked (Term.Uses known) (Term.ofComponent find component) := by
  unfold Term.ofComponent
  split
  · trivial
  · split
    · trivial
    · exact (Operand.checked_compile hFind component).map
        fun operand hOperand => hOperand

omit hFind

private theorem InfixOperator.uses_build {left right : Condition}
    (hLeft : left.Uses known) (hRight : right.Uses known) (operator : InfixOperator) :
    (operator.build left right).Uses known := by
  cases operator <;> exact ⟨hLeft, hRight⟩

/-- Both halves of the reader of conditions put together what they are given, and leave
the rest of it. -/
private theorem Condition.uses_climb_uses_extend (fuel : Nat) :
    (∀ {power terms condition rest}, (∀ term ∈ terms, Term.Uses known term) →
      climb fuel power terms = .ok (condition, rest) →
      condition.Uses known ∧ ∀ term ∈ rest, term.Uses known) ∧
    (∀ power {left terms condition rest}, (∀ term ∈ terms, Term.Uses known term) →
      extend fuel power left terms = .ok (condition, rest) → left.Uses known →
      condition.Uses known ∧ ∀ term ∈ rest, term.Uses known) := by
  induction fuel with
  | zero =>
      constructor
      · intro power terms condition rest _ h
        rw [climb] at h
        cases h
      · intro power left terms condition rest hTerms h hLeft
        rw [extend] at h
        cases h
        exact ⟨hLeft, hTerms⟩
  | succ fuel ih =>
      obtain ⟨ihClimb, ihExtend⟩ := ih
      constructor
      · intro power terms condition rest hTerms h
        cases terms with
        | nil => cases h
        | cons term behind =>
            obtain ⟨hTerm, hBehind⟩ := List.forall_mem_cons.mp hTerms
            cases term with
            | joint text operator => cases h
            | atom operand =>
                rw [climb] at h
                exact ihExtend power hBehind h hTerm
            | negation =>
                rw [climb] at h
                split at h
                · rename_i negated after hClimb
                  obtain ⟨hNegated, hAfter⟩ := ihClimb hBehind hClimb
                  exact ihExtend power hAfter h hNegated
                · cases h
      · intro power left terms condition rest hTerms h hLeft
        cases terms with
        | nil =>
            cases h
            exact ⟨hLeft, hTerms⟩
        | cons term behind =>
            obtain ⟨-, hBehind⟩ := List.forall_mem_cons.mp hTerms
            cases term with
            | atom operand =>
                cases h
                exact ⟨hLeft, hTerms⟩
            | negation =>
                rw [extend] at h
                split at h <;> cases h
                exact ⟨hLeft, hTerms⟩
            | joint text operator =>
                rw [extend] at h
                split at h
                · split at h
                  · rename_i right after hClimb
                    obtain ⟨hRight, hAfter⟩ := ihClimb hBehind hClimb
                    exact ihExtend power hAfter h (operator.uses_build hLeft hRight)
                  · cases h
                · cases h
                  exact ⟨hLeft, hTerms⟩

private theorem Condition.uses_ofTerms {terms : List Term}
    (hTerms : ∀ term ∈ terms, term.Uses known) {condition : Condition}
    (h : ofTerms terms = .ok condition) : condition.Uses known := by
  unfold ofTerms at h
  split at h
  · rename_i found hClimb
    cases h
    exact ((uses_climb_uses_extend _).1 hTerms hClimb).1
  · cases h
  · cases h

include hFind

theorem Condition.checked_parse (components : List String) :
    Checked (Condition.Uses known) (Condition.parse find components) := by
  refine (EndsIn.mapM (Term.checked_ofComponent hFind) components).bind
    fun terms hTerms => ?_
  cases hCondition : ofTerms terms with
  | ok condition => exact uses_ofTerms hTerms hCondition
  | error fault => exact rfl

end Expressions

end TextTemplate
