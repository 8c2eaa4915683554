import TextTemplate.Proofs.Parsing.Queue

/-!
# Bodies without a count of steps

`parseBody` takes a number of steps along so that it ends, and `parseUntil` gives it as
many as there are tokens. This module proves that more steps change nothing: whatever a
tag reads on the way leaves a shorter queue, and no parser looks beyond the queue that
it is given. So `parseUntil` obeys equations of its own in which no steps occur, and a
body inside a tag is a `parseUntil` as well.

It also says what it takes for a program over the queue to succeed. One equation a
primitive, tagged for `simp`, is enough to turn a successful run of a tag's program into
the parts that it was made of.

## Main results

* `Registry.parseBody_eq_parseUntil` — steps beyond the tokens of the queue do
  not matter.
* `Registry.parseUntil_cons` — a body is the node of its first token and the body
  behind it.
* `Reading.run_bind_eq_ok_iff` — a program succeeds if its parts do, one after
  the other.
-/

namespace TextTemplate

variable {α β : Type}

/-! ## Steps do not matter -/

/-- A program gives the same with bodies that are the same on every queue that it
can meet. -/
private theorem Reading.run_congr {bodies others : BodyParser} {limit : Nat}
    (hTails : ∀ stop, (bodies stop).Tails)
    (h : ∀ stop queue, queue.length ≤ limit → bodies stop queue = others stop queue)
    (reading : Reading α) {queue : List Token} (hQueue : queue.length ≤ limit) :
    reading.run bodies queue = reading.run others queue := by
  induction reading generalizing queue with
  | done result => rfl
  | fail error => rfl
  | take after ih =>
      cases queue with
      | nil => exact ih none hQueue
      | cons token rest => exact ih (some token) (Nat.le_of_succ_le hQueue)
  | body stop after ih =>
      have hLeft := hTails stop queue
      simp only [run, Bind.bind, EStateM.bind, Parser.outcome, ← h stop queue hQueue]
      cases hBody : bodies stop queue with
      | ok nodes rest =>
          rw [Parser.left_of_ok hBody] at hLeft
          exact ih (.ok nodes) (Nat.le_trans hLeft.length_le hQueue)
      | error error rest =>
          rw [Parser.left_of_error hBody] at hLeft
          exact ih (.error error) (Nat.le_trans hLeft.length_le hQueue)
  | ahead after ih => exact ih queue hQueue

namespace Registry

variable (registry : Registry)

theorem readNode_congr {bodies others : BodyParser} {limit : Nat}
    (hTails : ∀ stop, (bodies stop).Tails)
    (h : ∀ stop queue, queue.length ≤ limit → bodies stop queue = others stop queue)
    (token : Token) {queue : List Token} (hQueue : queue.length ≤ limit) :
    registry.readNode bodies token queue = registry.readNode others token queue := by
  cases token with
  | text contents => rfl
  | output contents => rfl
  | comment contents => rfl
  | block contents =>
      show registry.readBlock bodies (.block contents) queue =
        registry.readBlock others (.block contents) queue
      unfold readBlock
      cases (Token.block contents).name? with
      | none => rfl
      | some name =>
          simp only [Bind.bind, EStateM.bind]
          cases registry.findTag name with
          | error error => rfl
          | ok reader =>
              simp only [Parser.ofExcept]
              rw [Reading.run_congr hTails h
                (reader registry.findFilter (.block contents)) hQueue]

/-- One step more changes nothing when there are as many steps as tokens. -/
private theorem parseBody_succ {steps : Nat} (stop : Token → Bool) {queue : List Token}
    (hQueue : queue.length ≤ steps) :
    registry.parseBody (steps + 1) stop queue =
      registry.parseBody steps stop queue := by
  induction steps generalizing stop queue with
  | zero =>
      rw [List.length_eq_zero_iff.mp (Nat.le_zero.mp hQueue), registry.parseBody_nil,
        registry.parseBody_nil]
  | succ steps ih =>
      cases queue with
      | nil => rw [registry.parseBody_nil, registry.parseBody_nil]
      | cons token rest =>
          cases hEnds : ends stop token with
          | true =>
              rw [registry.parseBody_of_ends hEnds, registry.parseBody_of_ends hEnds]
          | false =>
              have hRest : rest.length ≤ steps := Nat.le_of_succ_le_succ hQueue
              have hNode :=
                registry.readNode_congr (registry.tails_parseBody (steps + 1))
                (fun stop queue => ih stop) token hRest
              have hTails :=
                registry.tails_readNode (registry.tails_parseBody steps) token rest
              rw [registry.parseBody_of_goes_on hEnds,
                registry.parseBody_of_goes_on hEnds]
              simp only [Bind.bind, EStateM.bind, hNode]
              cases hRead : registry.readNode (registry.parseBody steps) token rest with
              | error error left => rfl
              | ok node left =>
                  rw [Parser.left_of_ok hRead] at hTails
                  simp only [ih stop (Nat.le_trans hTails.length_le hRest)]

/-- Steps beyond the tokens of the queue do not matter. -/
theorem parseBody_eq_parseUntil {steps : Nat} (stop : Token → Bool) {queue : List Token}
    (hQueue : queue.length ≤ steps) :
    registry.parseBody steps stop queue = registry.parseUntil stop queue := by
  show registry.parseBody steps stop queue = registry.parseBody queue.length stop queue
  induction hQueue with
  | refl => rfl
  | step hSteps ih => rw [registry.parseBody_succ stop hSteps, ih]

theorem tails_parseUntil (stop : Token → Bool) : (registry.parseUntil stop).Tails :=
  fun queue => registry.tails_parseBody queue.length stop queue

theorem parseUntil_nil (stop : Token → Bool) :
    registry.parseUntil stop [] = .ok [] [] := rfl

theorem parseUntil_of_ends {stop : Token → Bool} {token : Token}
    (hEnds : ends stop token = true) (rest : List Token) :
    registry.parseUntil stop (token :: rest) = .ok [] (token :: rest) :=
  registry.parseBody_of_ends hEnds rest.length rest

/-- A body that does not end at the first token is the node of that token and the body
behind it. -/
theorem parseUntil_cons {stop : Token → Bool} {token : Token}
    (hEnds : ends stop token = false) (rest : List Token) :
    registry.parseUntil stop (token :: rest) =
      (do
        let node ← registry.readNode registry.parseUntil token
        let nodes ← registry.parseUntil stop
        return node.toList ++ nodes : Parser (List Node)) rest := by
  have hNode := registry.readNode_congr (registry.tails_parseBody rest.length)
    (fun stop queue => registry.parseBody_eq_parseUntil stop) token (Nat.le_refl _)
  have hTails := registry.tails_readNode registry.tails_parseUntil token rest
  show registry.parseBody (rest.length + 1) stop (token :: rest) = _
  rw [registry.parseBody_of_goes_on hEnds]
  simp only [Bind.bind, EStateM.bind, hNode]
  cases hRead : registry.readNode registry.parseUntil token rest with
  | error error left => rfl
  | ok node left =>
      rw [Parser.left_of_ok hRead] at hTails
      simp only [registry.parseBody_eq_parseUntil stop hTails.length_le]

end Registry

/-! ## Programs that succeed -/

namespace Parser

theorem bind_eq_ok_iff {first : Parser α} {next : α → Parser β}
    {queue rest : List Token} {value : β} :
    (first >>= next) queue = .ok value rest ↔
      ∃ early middle, first queue = .ok early middle ∧
        next early middle = .ok value rest := by
  simp only [Bind.bind, EStateM.bind]
  cases first queue with
  | error error left => simp
  | ok early middle =>
      simp only [EStateM.Result.ok.injEq]
      constructor
      · exact fun h => ⟨early, middle, ⟨rfl, rfl⟩, h⟩
      · rintro ⟨_, _, ⟨rfl, rfl⟩, h⟩
        exact h

theorem ofExcept_eq_ok_iff {outcome : Except Error α} {queue rest : List Token}
    {value : α} :
    Parser.ofExcept outcome queue = .ok value rest ↔
      outcome = .ok value ∧ queue = rest := by
  cases outcome <;> simp [Parser.ofExcept]

end Parser

namespace Reading

variable {bodies : BodyParser} {queue rest : List Token}

/-- A program that comes after another one runs after it. -/
theorem run_bind (first : Reading α) (next : α → Reading β) :
    (first >>= next).run bodies queue =
      (first.run bodies >>= fun value => (next value).run bodies) queue := by
  induction first generalizing queue with
  | done result => rfl
  | fail error => rfl
  | take after ih => cases queue <;> exact ih _
  | body stop after ih =>
      show (Reading.body stop fun nodes => (after nodes).bind next).run bodies queue = _
      simp only [run, Bind.bind, EStateM.bind, Parser.outcome]
      cases bodies stop queue <;> exact ih _
  | ahead after ih => exact ih _

/-- A program that comes after one that succeeds. -/
theorem run_bind_of_ok {first : Reading α} {next : α → Reading β} {value : α}
    (h : first.run bodies queue = .ok value rest) :
    (first >>= next).run bodies queue = (next value).run bodies rest := by
  rw [run_bind]
  show EStateM.bind (first.run bodies) (fun value => (next value).run bodies) queue = _
  rw [EStateM.bind, h]

/-- A program fails if the one before it does. -/
theorem run_bind_of_error {first : Reading α} {next : α → Reading β} {error : Error}
    (h : first.run bodies queue = .error error rest) :
    (first >>= next).run bodies queue = .error error rest := by
  rw [run_bind]
  show EStateM.bind (first.run bodies) (fun value => (next value).run bodies) queue = _
  rw [EStateM.bind, h]

@[simp] theorem run_bind_eq_ok_iff {first : Reading α} {next : α → Reading β}
    {value : β} :
    (first >>= next).run bodies queue = .ok value rest ↔
      ∃ early middle, first.run bodies queue = .ok early middle ∧
        (next early).run bodies middle = .ok value rest := by
  rw [run_bind, Parser.bind_eq_ok_iff]

@[simp] theorem run_pure_eq_ok_iff {result value : α} :
    (pure result : Reading α).run bodies queue = .ok value rest ↔
      result = value ∧ queue = rest := by
  show EStateM.Result.ok result queue = .ok value rest ↔ _
  simp

@[simp] theorem run_ofExcept_eq_ok_iff {outcome : Except Error α} {value : α} :
    (ofExcept outcome).run bodies queue = .ok value rest ↔
      outcome = .ok value ∧ queue = rest := by
  cases outcome with
  | ok result => exact run_pure_eq_ok_iff.trans (by simp)
  | error error =>
      show EStateM.Result.error error queue = .ok value rest ↔ _
      simp

@[simp] theorem run_fault_ne_ok {cause : Fault} {value : α} :
    ¬ (fault cause : Reading α).run bodies queue = .ok value rest := by
  intro h
  cases h

@[simp] theorem run_next_eq_ok_iff {token : Option Token} :
    next.run bodies queue = .ok token rest ↔
      queue.head? = token ∧ queue.tail = rest := by
  cases queue with
  | nil =>
      show EStateM.Result.ok none [] = .ok token rest ↔ _
      simp
  | cons first others =>
      show EStateM.Result.ok (some first) others = .ok token rest ↔ _
      simp

@[simp] theorem run_rest_eq_ok_iff {tokens : List Token} :
    Reading.rest.run bodies queue = .ok tokens rest ↔
      queue = tokens ∧ queue = rest := by
  show EStateM.Result.ok queue queue = .ok tokens rest ↔ _
  simp

@[simp] theorem run_bodyUntil (names : List String) :
    (bodyUntil names).run bodies queue = bodies (Token.isNamed names) queue := by
  show (Reading.body (Token.isNamed names) Reading.ofExcept).run bodies queue = _
  simp only [run, Bind.bind, EStateM.bind, Parser.outcome]
  cases bodies (Token.isNamed names) queue <;> rfl

@[simp] theorem run_close_eq_ok_iff {closing : String} {token : Token} :
    (close closing).run bodies queue = .ok token rest ↔ queue = token :: rest := by
  unfold close
  rw [run_bind_eq_ok_iff]
  constructor
  · rintro ⟨early, middle, hNext, hToken⟩
    obtain ⟨rfl, rfl⟩ := run_next_eq_ok_iff.mp hNext
    cases queue with
    | nil => exact absurd hToken run_fault_ne_ok
    | cons first others =>
        obtain ⟨rfl, rfl⟩ := run_pure_eq_ok_iff.mp hToken
        rfl
  · rintro rfl
    exact ⟨some token, rest, run_next_eq_ok_iff.mpr ⟨rfl, rfl⟩,
      run_pure_eq_ok_iff.mpr ⟨rfl, rfl⟩⟩

end Reading

end TextTemplate
