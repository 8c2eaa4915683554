import Mathlib
import TextTemplate.Proofs.Condition.Terms

/-!
# Climbing reads what a row stands for

Conditions are read from left to right, by climbing from operator to operator. This
module proves that the reader accepts exactly the well-formed rows and that its tree is
the one of `arrange`, which looks at the row as a whole.

What was read for a given power is a `Clause`: it is arranged as a row of its own, and
none of its operators binds too loosely. What may follow it is limited by `Closes`: an
operator behind a clause binds at most as tightly as the operators in it, and not
tighter than a negation in it. With both, one more operator and the clause on its right
side make a clause again (`Clause.joint`), and the reader keeps both at every step.

## Main results

* `climb_sound` — what is read is a clause, and what follows cannot belong to it.
* `climb_complete` — a well-formed row is read without a fault.
* `parse_arranges` — reading succeeds on the well-formed rows only and gives
  their trees.
-/

namespace TextTemplate.Condition

open Term InfixOperator

/-- The operators between the operands of `terms` bind tighter than `power`. -/
def Tighter (power : Nat) (terms : List Term) : Prop :=
  ∀ text operator, .joint text operator ∈ terms → power < operator.power

/-- Terms that were read for `power`, and the tree that they were read as. A negation
may start a clause for any power, and the operators that it takes bind tighter than
itself only; so the looser of the two powers limits the operators. A clause for the side
of a comparison is a single operand or a negation. -/
structure Clause (find : FilterFinder) (power : Nat) (used : List Term)
    (condition : Condition) : Prop where
  reads : ∀ term ∈ used, term.Reads find
  arranged : arrange find (used.map text) = some condition
  words : condition.words = used.map text
  row : Row (used.map text)
  tight : Tighter (min power negationPower) used
  lone : 10 ≤ power → (∃ operand, used = [.atom operand]) ∨
    ∃ inner, used = .negation :: inner

/-- What may follow a clause: an operator that binds at most as tightly as the operators
of the clause and, if the clause has a negation, not tighter than a negation. -/
def Closes (used rest : List Term) : Prop :=
  ∀ text operator tail, rest = .joint text operator :: tail →
    (∀ other inner, .joint other inner ∈ used → operator.power ≤ inner.power) ∧
      (.negation ∈ used → operator.power ≤ negationPower)

/-- An operator at the start of `rest` does not bind tighter than `power`. -/
def Stops (power : Nat) (rest : List Term) : Prop :=
  ∀ text operator tail, rest = .joint text operator :: tail → operator.power ≤ power

/-- No operator binds tighter than a comparison. -/
private theorem power_le (operator : InfixOperator) : operator.power ≤ 10 := by
  cases operator with
  | or => decide
  | and => decide
  | compare comparison => exact Nat.le_refl 10

variable {find : FilterFinder} {power : Nat}

/-- An operator that binds too loosely is not among tight terms. -/
theorem Tighter.word_notMem {terms : List Term} (hTight : Tighter power terms)
    (operator : InfixOperator) (hReads : ∀ term ∈ terms, term.Reads find)
    (h : operator.power ≤ power) :
    operator.word ∉ terms.map text := by
  intro hMem
  obtain ⟨other, hJoint⟩ := exists_joint_of_word_mem hReads hMem
  have hPower := hTight other operator hJoint
  omega

namespace Clause

/-- An operand by itself is a clause. -/
theorem atom {operand : Operand} (h : (Term.atom operand).Reads find) :
    Clause find power [.atom operand] (.holds operand) where
  reads := by
    intro term hMem
    rw [List.mem_singleton.mp hMem]
    exact h
  arranged := arrange_single h.1 h.2
  words := rfl
  row := .operand h.1
  tight := by
    intro text operator hMem
    rw [List.mem_singleton] at hMem
    cases hMem
  lone := fun _ => .inl ⟨operand, rfl⟩

/-- The negation of a clause whose operators bind tighter than a negation is a
clause. -/
theorem negation {inner : List Term} {condition : Condition}
    (h : Clause find negationPower inner condition) :
    Clause find power (.negation :: inner) (.not condition) where
  reads := by
    intro term hMem
    cases List.mem_cons.mp hMem with
    | inl hHead =>
        rw [hHead]
        trivial
    | inr hTail => exact h.reads term hTail
  arranged := by
    have hOr : "or" ∉ inner.map text := h.tight.word_notMem .or h.reads (by decide)
    have hAnd : "and" ∉ inner.map text :=
      h.tight.word_notMem .and h.reads (by decide)
    rw [List.map_cons, show Term.negation.text = "not" from rfl, arrange_not hOr hAnd,
      h.arranged]
    rfl
  words := by
    rw [List.map_cons, ← h.words]
    rfl
  row := .negation h.row
  tight := by
    intro text operator hMem
    cases List.mem_cons.mp hMem with
    | inl hHead => cases hHead
    | inr hTail =>
        have hPower := h.tight text operator hTail
        omega
  lone := fun _ => .inr ⟨inner, rfl⟩

theorem ne_nil {used : List Term} {condition : Condition}
    (h : Clause find power used condition) :
    used ≠ [] := by
  rintro rfl
  cases h.row

/-- Two clauses with a comparison between them, when the left one has no looser operator
and no negation, are arranged as that comparison. -/
theorem arrange_comparison {left right : List Term} {leftSide rightSide : Condition}
    {comparison : Comparison} (hLeft : Clause find power left leftSide)
    (hRight : Clause find 10 right rightSide) (hTight : Tighter 9 left)
    (hNot : Term.negation ∉ left) :
    arrange find (left.map text ++ comparison.symbol :: right.map text) =
      some (.compare comparison leftSide rightSide) := by
  have hOr : "or" ∉ left.map text := hTight.word_notMem .or hLeft.reads (by decide)
  have hAnd : "and" ∉ left.map text := hTight.word_notMem .and hLeft.reads (by decide)
  have hNoNot : "not" ∉ left.map text :=
    fun hMem => hNot (negation_mem_of_not_mem hLeft.reads hMem)
  have hRightOr : "or" ∉ right.map text :=
    hRight.tight.word_notMem .or hRight.reads (by decide)
  have hRightAnd : "and" ∉ right.map text :=
    hRight.tight.word_notMem .and hRight.reads (by decide)
  cases hRight.lone (Nat.le_refl 10) with
  | inl hAtom =>
      obtain ⟨operand, rfl⟩ := hAtom
      have hReads := hRight.reads _ List.mem_cons_self
      exact arrange_compare hOr hAnd hNoNot hReads.1 hLeft.arranged hRight.arranged
  | inr hNegation =>
      obtain ⟨inner, rfl⟩ := hNegation
      have hInnerOr : "or" ∉ inner.map text :=
        fun hMem => hRightOr (List.mem_cons_of_mem _ hMem)
      have hInnerAnd : "and" ∉ inner.map text :=
        fun hMem => hRightAnd (List.mem_cons_of_mem _ hMem)
      have hArranged := hRight.arranged
      rw [List.map_cons, show Term.negation.text = "not" from rfl,
        arrange_not hInnerOr hInnerAnd, Option.map_eq_some_iff] at hArranged
      obtain ⟨negated, hInner, rfl⟩ := hArranged
      exact arrange_compare_not (by simpa using hLeft.ne_nil) (by simp [hOr, hInnerOr])
        (by simp [hAnd, hInnerAnd]) hNoNot hLeft.arranged hInner

/-- Two clauses with an operator between them that closes the left one are a clause. -/
theorem joint {left right : List Term} {leftSide rightSide : Condition}
    {operator : InfixOperator} {rest : List Term}
    (hLeft : Clause find power left leftSide)
    (hRight : Clause find operator.power right rightSide)
    (hPower : power < operator.power)
    (hCloses : Closes left (.joint operator.word operator :: rest)) :
    Clause find power (left ++ .joint operator.word operator :: right)
      (operator.build leftSide rightSide) where
  reads := by
    intro term hMem
    rw [List.mem_append, List.mem_cons] at hMem
    rcases hMem with hMem | rfl | hMem
    · exact hLeft.reads term hMem
    · rfl
    · exact hRight.reads term hMem
  arranged := by
    obtain ⟨hLooser, hNegation⟩ := hCloses _ operator rest rfl
    rw [List.map_append, List.map_cons,
      show (Term.joint operator.word operator).text = operator.word from rfl]
    cases operator with
    | or =>
        have hOr : "or" ∉ right.map text :=
          hRight.tight.word_notMem .or hRight.reads (by decide)
        exact arrange_or hOr hLeft.arranged hRight.arranged
    | and =>
        have hTight : Tighter 6 left := fun other inner hMem => hLooser other inner hMem
        have hLeftOr : "or" ∉ left.map text :=
          hTight.word_notMem .or hLeft.reads (by decide)
        have hRightOr : "or" ∉ right.map text :=
          hRight.tight.word_notMem .or hRight.reads (by decide)
        have hAnd : "and" ∉ right.map text :=
          hRight.tight.word_notMem .and hRight.reads (by decide)
        exact arrange_and (by simp [hLeftOr, hRightOr]) hAnd hLeft.arranged
          hRight.arranged
    | compare comparison =>
        refine arrange_comparison hLeft hRight
          (fun other inner hMem => hLooser other inner hMem) ?_
        intro hMem
        exact absurd (hNegation hMem) (show ¬ 10 ≤ 8 by decide)
  words := by
    rw [List.map_append, List.map_cons, ← hLeft.words, ← hRight.words]
    cases operator <;> rfl
  row := by
    rw [List.map_append, List.map_cons]
    exact hLeft.row.append operator.word_mem hRight.row
  tight := by
    intro text inner hMem
    rw [List.mem_append, List.mem_cons] at hMem
    rcases hMem with hMem | hHead | hMem
    · exact hLeft.tight text inner hMem
    · cases hHead
      omega
    · have hInner := hRight.tight text inner hMem
      omega
  lone := by
    intro hLone
    have hLimit := power_le operator
    omega

end Clause

/-! ## What follows a clause -/

namespace Closes

/-- Whatever follows an operand closes it. -/
theorem atom (operand : Operand) (rest : List Term) : Closes [.atom operand] rest := by
  intro text operator tail _
  simp

/-- What follows the terms of a negation, and does not bind tighter than it, closes
it. -/
theorem negation {inner rest : List Term} (hInner : Closes inner rest)
    (hStops : Stops negationPower rest) : Closes (.negation :: inner) rest := by
  intro text operator tail hRest
  obtain ⟨hLooser, _⟩ := hInner text operator tail hRest
  refine ⟨fun other innerOperator hMem => ?_, fun _ => hStops text operator tail hRest⟩
  cases List.mem_cons.mp hMem with
  | inl hHead => cases hHead
  | inr hTail => exact hLooser other innerOperator hTail

/-- What follows the right side of an operator, and does not bind tighter than it,
closes both sides. -/
theorem joint {left right rest behind : List Term} {text : String}
    {operator : InfixOperator} (hLeft : Closes left (.joint text operator :: rest))
    (hRight : Closes right behind) (hStops : Stops operator.power behind) :
    Closes (left ++ .joint text operator :: right) behind := by
  intro other next tail hBehind
  obtain ⟨hLooser, hNegation⟩ := hLeft text operator rest rfl
  obtain ⟨hRightLooser, hRightNegation⟩ := hRight other next tail hBehind
  have hNext := hStops other next tail hBehind
  constructor
  · intro word inner hMem
    rw [List.mem_append, List.mem_cons] at hMem
    rcases hMem with hMem | hHead | hMem
    · exact Nat.le_trans hNext (hLooser word inner hMem)
    · cases hHead
      exact hNext
    · exact hRightLooser word inner hMem
  · intro hMem
    rw [List.mem_append, List.mem_cons] at hMem
    rcases hMem with hMem | hHead | hMem
    · exact Nat.le_trans hNext (hNegation hMem)
    · cases hHead
    · exact hRightNegation hMem

end Closes

/-! ## The reader -/

/-- The terms that a reader takes behind `before`, the tree that it makes of them all
and the terms that it leaves. -/
def Takes (find : FilterFinder) (power : Nat) (before terms : List Term)
    (condition : Condition) (rest : List Term) : Prop :=
  ∃ more, terms = more ++ rest ∧ Clause find power (before ++ more) condition ∧
    Closes (before ++ more) rest ∧ Stops power rest

namespace Takes

variable {before terms after rest : List Term} {condition : Condition}

theorem suffix (h : Takes find power before terms condition rest) : rest <:+ terms := by
  obtain ⟨more, hTerms, _⟩ := h
  exact ⟨more, hTerms.symm⟩

/-- The reader may stop. -/
theorem stop (hClause : Clause find power before condition)
    (hCloses : Closes before terms) (hStops : Stops power terms) :
    Takes find power before terms condition terms :=
  ⟨[], rfl, by rwa [List.append_nil], by rwa [List.append_nil], hStops⟩

/-- It may start with an operand. -/
theorem atom {operand : Operand} (h : (Term.atom operand).Reads find)
    (hMore : Clause find power [.atom operand] (.holds operand) →
      Closes [.atom operand] terms →
      Takes find power [.atom operand] terms condition rest) :
    Takes find power [] (.atom operand :: terms) condition rest := by
  obtain ⟨more, hTerms, hRead⟩ := hMore (.atom h) (.atom operand terms)
  exact ⟨.atom operand :: more, by rw [hTerms, List.cons_append], hRead⟩

/-- It may start with a negation of what it takes for one. -/
theorem negation {negated : Condition}
    (hInner : Takes find negationPower [] terms negated after)
    (hMore : ∀ inner, Clause find power (.negation :: inner) (.not negated) →
      Closes (.negation :: inner) after →
      Takes find power (.negation :: inner) after condition rest) :
    Takes find power [] (.negation :: terms) condition rest := by
  obtain ⟨inner, hTerms, hClause, hCloses, hStops⟩ := hInner
  rw [List.nil_append] at hClause hCloses
  obtain ⟨more, hAfter, hRead⟩ := hMore inner hClause.negation (hCloses.negation hStops)
  refine ⟨.negation :: inner ++ more, ?_, hRead⟩
  rw [hTerms, hAfter, List.cons_append, List.cons_append, List.append_assoc]

/-- It may go on with an operator and what it takes for the right side. -/
theorem joint {operator : InfixOperator} {left right : Condition}
    (hClause : Clause find power before left)
    (hCloses : Closes before (.joint operator.word operator :: terms))
    (hPower : power < operator.power)
    (hRight : Takes find operator.power [] terms right after)
    (hMore : ∀ used, Clause find power used (operator.build left right) →
      Closes used after →
      Takes find power used after condition rest) :
    Takes find power before (.joint operator.word operator :: terms)
      condition rest := by
  obtain ⟨inner, hTerms, hInner, hInnerCloses, hStops⟩ := hRight
  rw [List.nil_append] at hInner hInnerCloses
  obtain ⟨more, hAfter, hRead⟩ :=
    hMore (before ++ .joint operator.word operator :: inner)
    (hClause.joint hInner hPower hCloses) (hCloses.joint hInnerCloses hStops)
  refine ⟨.joint operator.word operator :: inner ++ more, ?_, ?_⟩
  · rw [hTerms, hAfter, List.cons_append, List.cons_append, List.append_assoc]
  · rwa [← List.append_assoc]

end Takes

/-- An operand or nothing stops the reader for every power. -/
private theorem stops_of_ne_joint {rest : List Term}
    (h : ∀ text operator tail, rest ≠ .joint text operator :: tail) :
    Stops power rest :=
  fun text operator tail hRest => absurd hRest (h text operator tail)

/-- Both halves of the reader take clauses. The fuel of `ofTerms` is enough, because
every term costs at most two steps. -/
private theorem climb_sound_extend_sound (find : FilterFinder) (fuel : Nat) :
    (∀ power terms condition rest, 2 * terms.length + 1 ≤ fuel →
      (∀ term ∈ terms, term.Reads find) →
        climb fuel power terms = .ok (condition, rest) →
      Takes find power [] terms condition rest) ∧
    (∀ power before left terms condition rest, 2 * terms.length ≤ fuel →
      (∀ term ∈ terms, term.Reads find) → Clause find power before left →
        Closes before terms →
      extend fuel power left terms = .ok (condition, rest) →
      Takes find power before terms condition rest) := by
  induction fuel with
  | zero =>
      refine ⟨fun power terms condition rest hFuel => by omega, ?_⟩
      intro power before left terms condition rest hFuel _ hClause hCloses h
      have hNil : terms = [] := List.length_eq_zero_iff.mp (by omega)
      subst hNil
      cases h
      exact .stop hClause hCloses (stops_of_ne_joint (by simp))
  | succ fuel ih =>
      obtain ⟨ihClimb, ihExtend⟩ := ih
      constructor
      · intro power terms condition rest hFuel hReads h
        cases terms with
        | nil => cases h
        | cons term behind =>
            rw [List.length_cons] at hFuel
            obtain ⟨hTerm, hBehind⟩ := List.forall_mem_cons.mp hReads
            cases term with
            | joint text operator => cases h
            | atom operand =>
                rw [climb] at h
                refine .atom hTerm fun hClause hCloses => ?_
                exact ihExtend power _ _ behind condition rest (by omega) hBehind
                  hClause hCloses h
            | negation =>
                rw [climb] at h
                split at h
                · rename_i negated after hClimb
                  have hInner := ihClimb negationPower behind negated after
                    (by omega) hBehind hClimb
                  have hLength := hInner.suffix.length_le
                  refine .negation hInner fun inner hClause hCloses => ?_
                  exact ihExtend power _ _ after condition rest (by omega)
                    (fun term hMem => hBehind term (hInner.suffix.mem hMem))
                    hClause hCloses h
                · cases h
      · intro power before left terms condition rest hFuel hReads hClause hCloses h
        cases terms with
        | nil =>
            cases h
            exact .stop hClause hCloses (stops_of_ne_joint (by simp))
        | cons term behind =>
            rw [List.length_cons] at hFuel
            obtain ⟨hTerm, hBehind⟩ := List.forall_mem_cons.mp hReads
            cases term with
            | atom operand =>
                cases h
                exact .stop hClause hCloses (stops_of_ne_joint (by simp))
            | negation =>
                rw [extend] at h
                split at h
                · cases h
                · cases h
                  exact .stop hClause hCloses (stops_of_ne_joint (by simp))
            | joint text operator =>
                cases (show text = operator.word from hTerm)
                rw [extend] at h
                split at h
                · rename_i hPower
                  split at h
                  · rename_i right after hClimb
                    have hRight := ihClimb operator.power behind right after
                      (by omega) hBehind hClimb
                    have hLength := hRight.suffix.length_le
                    refine .joint hClause hCloses hPower hRight
                      fun used hUsed hAfter => ?_
                    exact ihExtend power used _ after condition rest (by omega)
                      (fun term hMem => hBehind term (hRight.suffix.mem hMem))
                      hUsed hAfter h
                  · cases h
                · rename_i hPower
                  cases h
                  refine .stop hClause hCloses ?_
                  intro other next tail hRest
                  cases hRest
                  omega

/-- What `climb` reads is a clause, and what follows cannot belong to it. -/
theorem climb_sound {fuel : Nat} {terms rest : List Term} {condition : Condition}
    (hFuel : 2 * terms.length + 1 ≤ fuel) (hReads : ∀ term ∈ terms, term.Reads find)
    (h : climb fuel power terms = .ok (condition, rest)) :
    Takes find power [] terms condition rest :=
  (climb_sound_extend_sound find fuel).1 power terms condition rest hFuel hReads h

/-! ## Well-formed rows are read -/

/-- The rest of a row behind an operand. -/
def Continues (terms : List Term) : Prop :=
  terms = [] ∨ ∃ text operator tail, terms = .joint text operator :: tail ∧
    Row (tail.map Term.text)

/-- The terms of a row start with a negation of a row or with an operand. -/
private theorem terms_cases_of_row {terms : List Term}
    (hReads : ∀ term ∈ terms, term.Reads find) (hRow : Row (terms.map text)) :
    (∃ tail, terms = .negation :: tail ∧ Row (tail.map text)) ∨
      ∃ operand tail, terms = .atom operand :: tail ∧ Continues tail := by
  cases terms with
  | nil => cases hRow
  | cons term behind =>
      obtain ⟨hTerm, hBehind⟩ := List.forall_mem_cons.mp hReads
      rw [List.map_cons] at hRow
      rcases hRow.cons_cases with ⟨hText, hRest⟩ | ⟨hOperand, hRest⟩
      · exact .inl ⟨behind, by rw [eq_negation_of_text_eq hTerm hText], hRest⟩
      · obtain ⟨operand, rfl⟩ := exists_atom_of_text_notMem hTerm hOperand
        refine .inr ⟨operand, behind, rfl, ?_⟩
        rcases hRest with hNil | ⟨word, tail, hTail, hWord, hNext⟩
        · exact .inl (List.map_eq_nil_iff.mp hNil)
        · obtain ⟨next, others, rfl, rfl, rfl⟩ := List.map_eq_cons_iff.mp hTail
          obtain ⟨operator, rfl⟩ :=
            exists_joint_of_text_mem (hBehind next List.mem_cons_self) hWord
          exact .inr ⟨_, operator, others, rfl, hNext⟩

/-- Both halves of the reader accept what a row consists of, and leave an operator with
a row behind it or nothing. -/
private theorem climb_complete_extend_complete (find : FilterFinder) (fuel : Nat) :
    (∀ power terms, 2 * terms.length + 1 ≤ fuel → (∀ term ∈ terms, term.Reads find) →
      Row (terms.map text) →
      ∃ condition rest, climb fuel power terms = .ok (condition, rest) ∧
        rest <:+ terms ∧
        Continues rest) ∧
    (∀ power left terms, 2 * terms.length ≤ fuel → (∀ term ∈ terms, term.Reads find) →
      Continues terms →
      ∃ condition rest, extend fuel power left terms = .ok (condition, rest) ∧
        rest <:+ terms ∧
        Continues rest) := by
  induction fuel with
  | zero =>
      refine ⟨fun power terms hFuel => by omega, ?_⟩
      intro power left terms _ _ hContinues
      exact ⟨left, terms, by rw [extend], List.suffix_rfl, hContinues⟩
  | succ fuel ih =>
      obtain ⟨ihClimb, ihExtend⟩ := ih
      constructor
      · intro power terms hFuel hReads hRow
        rcases terms_cases_of_row hReads hRow with ⟨tail, rfl, hTail⟩ | ⟨operand,
          tail, rfl, hTail⟩
        · obtain ⟨_, hReads⟩ := List.forall_mem_cons.mp hReads
          rw [List.length_cons] at hFuel
          obtain ⟨negated, after, hClimb, hSuffix, hAfter⟩ :=
            ihClimb negationPower tail (by omega) hReads hTail
          have hLength := hSuffix.length_le
          obtain ⟨condition, rest, hExtend, hRest, hContinues⟩ :=
            ihExtend power (.not negated) after
            (by omega) (fun term hMem => hReads term (hSuffix.mem hMem)) hAfter
          refine ⟨condition, rest, ?_,
            (hRest.trans hSuffix).trans (List.suffix_cons _ _), hContinues⟩
          rw [climb, hClimb]
          exact hExtend
        · obtain ⟨_, hReads⟩ := List.forall_mem_cons.mp hReads
          rw [List.length_cons] at hFuel
          obtain ⟨condition, rest, hExtend, hRest, hContinues⟩ :=
            ihExtend power (.holds operand) tail (by omega) hReads hTail
          refine ⟨condition, rest, ?_, hRest.trans (List.suffix_cons _ _), hContinues⟩
          rw [climb, hExtend]
      · intro power left terms hFuel hReads hContinues
        rcases hContinues with rfl | ⟨text, operator, tail, rfl, hTail⟩
        · exact ⟨left, [], by rw [extend] <;> simp, List.suffix_rfl, .inl rfl⟩
        · by_cases hPower : power < operator.power
          · obtain ⟨_, hReads⟩ := List.forall_mem_cons.mp hReads
            rw [List.length_cons] at hFuel
            obtain ⟨right, after, hClimb, hSuffix, hAfter⟩ :=
              ihClimb operator.power tail (by omega) hReads hTail
            have hLength := hSuffix.length_le
            obtain ⟨condition, rest, hExtend, hRest, hContinues⟩ := ihExtend power
              (operator.build left right) after (by omega)
              (fun term hMem => hReads term (hSuffix.mem hMem)) hAfter
            refine ⟨condition, rest, ?_,
              (hRest.trans hSuffix).trans (List.suffix_cons _ _), hContinues⟩
            rw [extend, if_pos hPower, hClimb]
            exact hExtend
          · refine ⟨left, .joint text operator :: tail, ?_, List.suffix_rfl,
              .inr ⟨text, operator, tail, rfl, hTail⟩⟩
            rw [extend, if_neg hPower]

/-- A well-formed row is read without a fault. -/
theorem climb_complete {terms : List Term} {fuel : Nat} (power : Nat)
    (hFuel : 2 * terms.length + 1 ≤ fuel) (hReads : ∀ term ∈ terms, term.Reads find)
    (hRow : Row (terms.map text)) :
    ∃ condition rest, climb fuel power terms = .ok (condition, rest) ∧
      Continues rest := by
  obtain ⟨condition, rest, hClimb, _, hContinues⟩ :=
    (climb_complete_extend_complete find fuel).1 power terms hFuel hReads hRow
  exact ⟨condition, rest, hClimb, hContinues⟩

/-! ## Whole conditions -/

/-- Terms that are read as a whole are a row, and their tree is the row's. -/
private theorem arrange_of_ofTerms {terms : List Term} {condition : Condition}
    (hReads : ∀ term ∈ terms, term.Reads find) (h : ofTerms terms = .ok condition) :
    Row (terms.map text) ∧ arrange find (terms.map text) = some condition ∧
      condition.words = terms.map text := by
  unfold ofTerms at h
  split at h
  · rename_i whole hClimb
    cases h
    obtain ⟨used, hTerms, hClause, _⟩ := climb_sound (by omega) hReads hClimb
    rw [List.append_nil] at hTerms
    rw [List.nil_append, ← hTerms] at hClause
    exact ⟨hClause.row, hClause.arranged, hClause.words⟩
  · cases h
  · cases h

/-- The terms of a row are read as a whole. -/
private theorem exists_ofTerms_of_row {terms : List Term}
    (hReads : ∀ term ∈ terms, term.Reads find) (hRow : Row (terms.map text)) :
    ∃ condition, ofTerms terms = .ok condition := by
  obtain ⟨condition, rest, hClimb, hContinues⟩ :=
    climb_complete 0 (Nat.le_succ (2 * terms.length + 1)) hReads hRow
  obtain ⟨_, _, _, _, hStops⟩ := climb_sound (by omega) hReads hClimb
  rcases hContinues with rfl | ⟨text, operator, tail, rfl, _⟩
  · exact ⟨condition, by rw [ofTerms, hClimb]⟩
  · have hPower := hStops text operator tail rfl
    cases operator <;> simp [InfixOperator.power] at hPower

/-- Reading a condition succeeds exactly if its components are a row whose operands
compile, and it then gives the tree that the row stands for, which is made of all its
components in their order. -/
theorem parse_arranges (find : FilterFinder) (components : List String) :
    ((∃ condition, parse find components = .ok condition) ↔
      (∀ component ∈ components, component ∉ operatorWords →
        ∃ operand, Operand.compile find component = .ok operand) ∧ Row components) ∧
    ∀ condition, parse find components = .ok condition →
      arrange find components = some condition ∧ condition.words = components := by
  have hParse : ∀ condition, parse find components = .ok condition →
      (∃ terms, components.mapM (Term.ofComponent find) = .ok terms) ∧ Row components ∧
        arrange find components = some condition ∧ condition.words = components := by
    intro condition h
    unfold parse at h
    cases hTerms : components.mapM (Term.ofComponent find) with
    | error error =>
        rw [hTerms] at h
        cases h
    | ok terms =>
        rw [hTerms] at h
        obtain ⟨rfl, hReads⟩ := reads_of_mapM hTerms
        cases hWhole : ofTerms terms with
        | error fault =>
            simp only [hWhole, bind, Except.bind, Except.mapError] at h
            cases h
        | ok whole =>
            simp only [hWhole, bind, Except.bind, Except.mapError] at h
            cases h
            exact ⟨⟨terms, rfl⟩, arrange_of_ofTerms hReads hWhole⟩
  refine ⟨⟨?_, ?_⟩, fun condition h => (hParse condition h).2.2⟩
  · rintro ⟨condition, h⟩
    obtain ⟨hTerms, hRow, _⟩ := hParse condition h
    exact ⟨(exists_mapM_ofComponent find components).mp hTerms, hRow⟩
  · rintro ⟨hOperands, hRow⟩
    obtain ⟨terms, hTerms⟩ := (exists_mapM_ofComponent find components).mpr hOperands
    obtain ⟨rfl, hReads⟩ := reads_of_mapM hTerms
    obtain ⟨condition, hWhole⟩ := exists_ofTerms_of_row hReads hRow
    refine ⟨condition, ?_⟩
    rw [parse, hTerms]
    simp only [hWhole, bind, Except.bind, Except.mapError]

/-- A negation on the right side of a second comparison, behind one that makes its
left side. -/
theorem parse_arranges_of_negated_side :
    let find : FilterFinder := fun name => .error (.unknownFilter name [])
    let name (source : String) : Condition :=
      .holds (.filtered ⟨source, ⟨source, .path [source]⟩, []⟩)
    let components := ["a", "==", "b", "!=", "not", "c", "<", "d"]
    let condition : Condition :=
      .compare .notEqual (.compare .equal (name "a") (name "b"))
      (.not (.compare .less (name "c") (name "d")))
    parse find components = .ok condition ∧ arrange find components = some condition ∧
      condition.words = components := by
  intro find name components condition
  have hParse : parse find components = .ok condition := by cbv
  exact ⟨hParse, (parse_arranges find components).2 condition hParse⟩

end TextTemplate.Condition
