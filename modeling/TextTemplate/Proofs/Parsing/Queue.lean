import TextTemplate.Parser

/-!
# The queue of tokens

A parser takes tokens off a queue. This module proves that nothing that a tag reads ever
puts another token in front of it: whether a parser succeeds or fails, it leaves a tail
of the queue that it found. So the steps that `parseUntil` allows are enough, and a body
that ends nowhere takes all tokens there are.

## Main results

* `Reading.tails_run` — the program of a tag leaves a tail of the queue.
* `Registry.tails_parseBody` — so does a body.
* `Registry.parseBody_leaves_nil` — a body without an end takes everything.
-/

namespace TextTemplate

variable {α β : Type}

namespace Parser

/-- The queue that a parser leaves, in success and in failure. -/
def left (parser : Parser α) (queue : List Token) : List Token :=
  match parser queue with
  | .ok _ rest => rest
  | .error _ rest => rest

/-- A parser that leaves a tail of every queue. -/
def Tails (parser : Parser α) : Prop :=
  ∀ queue, parser.left queue <:+ queue

theorem left_of_ok {parser : Parser α} {queue rest : List Token} {value : α}
    (h : parser queue = .ok value rest) : parser.left queue = rest := by
  rw [left, h]

theorem left_of_error {parser : Parser α} {queue rest : List Token} {error : Error}
    (h : parser queue = .error error rest) : parser.left queue = rest := by
  rw [left, h]

namespace Tails

theorem pure (value : α) : (pure value : Parser α).Tails :=
  fun _ => List.suffix_rfl

theorem throw (error : Error) : (throw error : Parser α).Tails :=
  fun _ => List.suffix_rfl

theorem get : (get : Parser (List Token)).Tails :=
  fun _ => List.suffix_rfl

theorem ofExcept (outcome : Except Error α) : (Parser.ofExcept outcome).Tails := by
  intro queue
  cases outcome <;> exact List.suffix_rfl

theorem take : Parser.take.Tails := by
  intro queue
  cases queue with
  | nil => exact List.suffix_rfl
  | cons token rest => exact List.suffix_cons token rest

theorem bind {first : Parser α} {next : α → Parser β} (hFirst : first.Tails)
    (hNext : ∀ value, (next value).Tails) : (first >>= next).Tails := by
  intro queue
  have hStart := hFirst queue
  cases hRun : first queue with
  | ok value rest =>
      rw [left_of_ok hRun] at hStart
      have hEnd : (first >>= next).left queue = (next value).left rest := by
        simp only [left, Bind.bind, EStateM.bind, hRun]
      rw [hEnd]
      exact (hNext value rest).trans hStart
  | error error rest =>
      rw [left_of_error hRun] at hStart
      have hEnd : (first >>= next).left queue = rest := by
        simp only [left, Bind.bind, EStateM.bind, hRun]
      rw [hEnd]
      exact hStart

theorem outcome {parser : Parser α} (h : parser.Tails) : parser.outcome.Tails := by
  intro queue
  have hLeft : parser.outcome.left queue = parser.left queue := by
    unfold left Parser.outcome
    cases parser queue <;> rfl
  rw [hLeft]
  exact h queue

end Tails

end Parser

open TextTemplate.Parser

/-- The program of a tag leaves a tail of the queue, if the bodies in it do. -/
theorem Reading.tails_run {bodies : BodyParser} (h : ∀ stop, (bodies stop).Tails)
    (reading : Reading α) : (reading.run bodies).Tails := by
  induction reading with
  | done result => exact .pure result
  | fail error => exact .throw error
  | take after ih => exact Tails.take.bind ih
  | body stop after ih => exact (h stop).outcome.bind ih
  | ahead after ih => exact Tails.get.bind ih

namespace Registry

variable (registry : Registry)

theorem tails_readNode {bodies : BodyParser} (h : ∀ stop, (bodies stop).Tails)
    (token : Token) :
    (registry.readNode bodies token).Tails := by
  cases token with
  | text contents => exact .pure _
  | output contents => exact (Tails.ofExcept _).bind fun chain => .pure _
  | comment contents => exact .pure _
  | block contents =>
      show (registry.readBlock bodies (.block contents)).Tails
      unfold readBlock
      split
      · exact .pure _
      · refine (Tails.ofExcept _).bind fun reader => ?_
        exact (Reading.tails_run h _).bind fun node => .pure _

/-- A body ends with the queue. -/
theorem parseBody_nil (steps : Nat) (stop : Token → Bool) :
    registry.parseBody steps stop [] = .ok [] [] := by
  cases steps <;> rfl

/-- A body ends before the token that ends it, which stays in the queue. -/
theorem parseBody_of_ends {stop : Token → Bool} {token : Token}
    (hEnds : ends stop token = true) (steps : Nat) (rest : List Token) :
    registry.parseBody (steps + 1) stop (token :: rest) = .ok [] (token :: rest) := by
  simp only [parseBody, Bind.bind, EStateM.bind, take, hEnds, if_true, putBack]
  rfl

/-- A body that does not end at the next token goes on with the node of that token. -/
theorem parseBody_of_goes_on {stop : Token → Bool} {token : Token}
    (hEnds : ends stop token = false) (steps : Nat) (rest : List Token) :
    registry.parseBody (steps + 1) stop (token :: rest) =
      (do
        let node ← registry.readNode (registry.parseBody steps) token
        let nodes ← registry.parseBody steps stop
        return node.toList ++ nodes : Parser (List Node)) rest := by
  simp only [parseBody, Bind.bind, EStateM.bind, take, hEnds, Bool.false_eq_true,
    if_false]

/-- A body leaves a tail of the queue. -/
theorem tails_parseBody (steps : Nat) (stop : Token → Bool) :
    (registry.parseBody steps stop).Tails := by
  induction steps generalizing stop with
  | zero => exact .pure []
  | succ steps ih =>
      intro queue
      cases queue with
      | nil => exact List.suffix_rfl
      | cons token rest =>
          cases hEnds : ends stop token with
          | true => exact ⟨[], left_of_ok (registry.parseBody_of_ends hEnds steps rest)⟩
          | false =>
              have hMore : (do
                  let node ← registry.readNode (registry.parseBody steps) token
                  let nodes ← registry.parseBody steps stop
                  return node.toList ++ nodes : Parser (List Node)).Tails :=
                (registry.tails_readNode ih token).bind fun node => (ih stop).bind
                  fun nodes => .pure _
              unfold left
              rw [registry.parseBody_of_goes_on hEnds steps rest]
              exact (hMore rest).trans (List.suffix_cons token rest)

/-- A body that no token ends takes all tokens that there are, if it may take
enough steps. -/
theorem parseBody_leaves_nil {stop : Token → Bool}
    (hStop : ∀ token, ends stop token = false) {steps : Nat} {queue rest : List Token}
    {nodes : List Node} (hSteps : queue.length ≤ steps)
    (h : registry.parseBody steps stop queue = .ok nodes rest) : rest = [] := by
  induction steps generalizing queue nodes with
  | zero =>
      have hNil : queue = [] := List.length_eq_zero_iff.mp (Nat.le_zero.mp hSteps)
      subst hNil
      cases h
      rfl
  | succ steps ih =>
      cases queue with
      | nil =>
          cases h
          rfl
      | cons token others =>
          rw [registry.parseBody_of_goes_on (hStop token)] at h
          have hTails := registry.tails_readNode (registry.tails_parseBody steps)
            token others
          simp only [Bind.bind, EStateM.bind] at h
          split at h
          · rename_i node behind hNode
            rw [left_of_ok hNode] at hTails
            have hLength := hTails.length_le
            rw [List.length_cons] at hSteps
            split at h
            · rename_i more last hMore
              cases h
              exact ih (Nat.le_trans hLength (Nat.le_of_succ_le_succ hSteps)) hMore
            · cases h
          · cases h

/-- Parsing all tokens leaves none. -/
theorem parseAll_leaves_nil {queue rest : List Token} {nodes : List Node}
    (h : registry.parseAll queue = .ok nodes rest) : rest = [] :=
  registry.parseBody_leaves_nil (fun token => by cases token <;> rfl) (Nat.le_refl _) h

end Registry

end TextTemplate
