import TextTemplate.Proofs.Parsing.Body

/-!
# Parsing comes to an end

A body is parsed by a loop, and the tags in it take tokens and parse bodies of their
own, as often as they like and whatever comes of it: a tag may well go on after a body
that has failed. `Registry.Returns` describes this rule by rule and counts nothing: it
holds of a task, a queue and a result if the loops and calls that the task sets off come
to an end with this result. This module proves that they always do, for whatever tags an
application defines, and that the result is the one of the counted definition.

A tag cannot put a token in front of the queue, and the loop does so with the block only
that it has just taken and that ends it. So what is left is a tail of the queue that was
there, at whatever point parsing fails, and after a body that has succeeded it is empty
or starts with the block that ends the body.

## Main definitions

* `Registry.Returns` — what it means that parsing comes to an end, without a count
  of steps.

## Main results

* `Registry.returns_perform` — every task comes to an end.
* `Registry.perform_eq_of_returns` — with one result only.
* `Registry.parseUntil_returns` — both for a body, and what it leaves.
-/

namespace TextTemplate

variable {α : Type}

/-- What a parser comes to: a value or an error, and the tokens that it leaves. -/
abbrev Parsed (α : Type) := EStateM.Result Error (List Token) α

/-- Something that is done with the queue of tokens. -/
inductive Job where
  /-- Parses a body up to a block that satisfies `stop`. -/
  | body (stop : Token → Bool)
  /-- Makes the node of a token that has been taken. -/
  | node (token : Token)
  /-- Runs the program of a tag. -/
  | program (reading : Reading Node)

/-- What a task is to give. -/
abbrev Job.Result : Job → Type
  | body _ => List Node
  | node _ => Option Node
  | program _ => Node

namespace Registry

open Reading

/-- A task comes to an end on a queue, with a result. -/
inductive Returns (registry : Registry) :
    (job : Job) → List Token → Parsed job.Result → Prop where
  /-- There are no tokens left. -/
  | exhausted {stop : Token → Bool} :
      Returns registry (.body stop) [] (.ok ([] : List Node) [])
  /-- The next token ends the body and is put back. -/
  | stopped {stop : Token →
      Bool} {token : Token} {rest : List Token} (hEnds : ends stop token = true) :
      Returns registry (.body stop) (token :: rest)
        (.ok ([] : List Node) (token :: rest))
  /-- The next token fails. -/
  | failed {stop : Token →
      Bool} {token : Token} {rest left : List Token} {error : Error}
      (hEnds : ends stop token = false)
      (hNode : Returns registry (.node token) rest (.error error left)) :
      Returns registry (.body stop) (token :: rest) (.error error left)
  /-- A later token fails. -/
  | failedLater {stop : Token → Bool} {token : Token} {rest middle left : List Token}
      {node : Option Node} {error : Error} (hEnds : ends stop token = false)
      (hNode : Returns registry (.node token) rest (.ok node middle))
      (hMore : Returns registry (.body stop) middle (.error error left)) :
      Returns registry (.body stop) (token :: rest) (.error error left)
  /-- The loop goes on behind what belongs to the next token. -/
  | wentOn {stop : Token → Bool} {token : Token} {rest middle left : List Token}
      {node : Option Node} {nodes : List Node} (hEnds : ends stop token = false)
      (hNode : Returns registry (.node token) rest (.ok node middle))
      (hMore : Returns registry (.body stop) middle (.ok nodes left)) :
      Returns registry (.body stop) (token :: rest) (.ok (node.toList ++ nodes) left)
  | text {contents : String} {queue : List Token} :
      Returns registry (.node (.text contents)) queue
        (.ok (some (Node.text contents)) queue)
  | output {contents : String} {chain : FilterChain} {queue : List Token}
      (hChain : FilterChain.compile registry.findFilter contents = .ok chain) :
      Returns registry (.node (.output contents)) queue
        (.ok (some (Node.output (.filtered chain))) queue)
  | failedOutput {contents : String} {error : Error} {queue : List Token}
      (hChain : FilterChain.compile registry.findFilter contents = .error error) :
      Returns registry (.node (.output contents)) queue (.error error queue)
  | comment {contents : String} {queue : List Token} :
      Returns registry (.node (.comment contents)) queue
        (.ok (none : Option Node) queue)
  | nameless {contents : String} {queue : List Token}
      (hName : (Token.block contents).name? = none) :
      Returns registry (.node (.block contents)) queue (.ok (none : Option Node) queue)
  | unknownTag {contents name : String} {error : Error} {queue : List Token}
      (hName : (Token.block contents).name? = some name)
      (hFind : registry.findTag name = .error error) :
      Returns registry (.node (.block contents)) queue (.error error queue)
  | tag {contents name : String} {reader : TagReader} {node : Node}
      {queue rest : List Token}
      (hName : (Token.block contents).name? = some name)
      (hFind : registry.findTag name = .ok reader)
      (hRun : Returns registry
        (.program (reader registry.findFilter (.block contents))) queue
        (.ok node rest)) :
      Returns registry (.node (.block contents)) queue (.ok (some node) rest)
  | failedTag {contents name : String} {reader : TagReader} {error : Error}
      {queue left : List Token}
      (hName : (Token.block contents).name? = some name)
      (hFind : registry.findTag name = .ok reader)
      (hRun : Returns registry
        (.program (reader registry.findFilter (.block contents))) queue
        (.error error left)) :
      Returns registry (.node (.block contents)) queue (.error error left)
  | done {node : Node} {queue : List Token} :
      Returns registry (.program (.done node)) queue (.ok node queue)
  | gaveUp {error : Error} {queue : List Token} :
      Returns registry (.program (.fail error)) queue (.error error queue)
  | take {after : Option Token →
      Reading Node} {queue : List Token} {result : Parsed Node}
      (hAfter : Returns registry (.program (after queue.head?)) queue.tail result) :
      Returns registry (.program (.take after)) queue result
  | parsed {stop : Token → Bool} {after : Except Error (List Node) →
      Reading Node} {nodes : List Node} {queue rest : List Token} {result : Parsed Node}
      (hBody : Returns registry (.body stop) queue (.ok nodes rest))
      (hAfter : Returns registry (.program (after (.ok nodes))) rest result) :
      Returns registry (.program (.body stop after)) queue result
  /-- The program is told that a body has failed, and goes on where it has failed. -/
  | notParsed {stop : Token → Bool} {after : Except Error (List Node) →
      Reading Node} {error : Error} {queue left : List Token} {result : Parsed Node}
      (hBody : Returns registry (.body stop) queue (.error error left))
      (hAfter : Returns registry (.program (after (.error error))) left result) :
      Returns registry (.program (.body stop after)) queue result
  | ahead {after : List Token →
      Reading Node} {queue : List Token} {result : Parsed Node}
      (hAfter : Returns registry (.program (after queue)) queue result) :
      Returns registry (.program (.ahead after)) queue result

/-- The parser of a task. -/
def perform (registry : Registry) : (job : Job) → Parser job.Result
  | .body stop => registry.parseUntil stop
  | .node token => registry.readNode registry.parseUntil token
  | .program reading => reading.run registry.parseUntil

/-! ## One equation a step -/

section Steps

variable {registry : Registry} {stop : Token → Bool} {token : Token}
  {rest middle left : List Token}

/-- A body fails if its first token does. -/
theorem parseUntil_of_failed_node (hEnds : ends stop token = false) {error : Error}
    (hNode : registry.readNode registry.parseUntil token rest = .error error left) :
    registry.parseUntil stop (token :: rest) = .error error left := by
  rw [registry.parseUntil_cons hEnds]
  simp only [Bind.bind, EStateM.bind, hNode]

/-- A body fails if what is behind its first token does. -/
theorem parseUntil_of_failed_rest (hEnds : ends stop token = false) {node : Option Node}
    {error : Error}
    (hNode : registry.readNode registry.parseUntil token rest = .ok node middle)
    (hMore : registry.parseUntil stop middle = .error error left) :
    registry.parseUntil stop (token :: rest) = .error error left := by
  rw [registry.parseUntil_cons hEnds]
  simp only [Bind.bind, EStateM.bind, hNode, hMore]

/-- A body is the node of its first token and the body behind it. -/
theorem parseUntil_of_parts (hEnds : ends stop token = false) {node : Option Node}
    {nodes : List Node}
    (hNode : registry.readNode registry.parseUntil token rest = .ok node middle)
    (hMore : registry.parseUntil stop middle = .ok nodes left) :
    registry.parseUntil stop (token :: rest) = .ok (node.toList ++ nodes) left := by
  rw [registry.parseUntil_cons hEnds]
  simp only [Bind.bind, EStateM.bind, hNode, hMore]
  rfl

variable {contents : String} {queue : List Token}

theorem readNode_of_output {chain : FilterChain}
    (hChain : FilterChain.compile registry.findFilter contents = .ok chain) :
    registry.readNode registry.parseUntil (.output contents) queue =
      .ok (some (.output (.filtered chain))) queue := by
  simp only [readNode, Bind.bind, EStateM.bind, Parser.ofExcept, hChain]
  rfl

theorem readNode_of_failed_output {error : Error}
    (hChain : FilterChain.compile registry.findFilter contents = .error error) :
    registry.readNode registry.parseUntil (.output contents) queue =
      .error error queue := by
  simp only [readNode, Bind.bind, EStateM.bind, Parser.ofExcept, hChain]

/-- A block without components stands for nothing. -/
theorem readNode_of_nameless (hName : (Token.block contents).name? = none) :
    registry.readNode registry.parseUntil (.block contents) queue = .ok none queue := by
  simp only [readNode, readBlock, hName]
  rfl

variable {name : String} (hName : (Token.block contents).name? = some name)

include hName

/-- A block with an unknown tag fails where it stands. -/
theorem readNode_of_unknown_tag {error : Error}
    (hFind : registry.findTag name = .error error) :
    registry.readNode registry.parseUntil (.block contents) queue =
      .error error queue := by
  simp only [readNode, readBlock, hName, hFind, Bind.bind, EStateM.bind,
    Parser.ofExcept]

variable {reader : TagReader} (hFind : registry.findTag name = .ok reader)

include hFind

/-- The node of a block is what the program of its tag gives. -/
theorem readNode_of_tag {node : Node}
    (hRun : (reader registry.findFilter (.block contents)).run registry.parseUntil
      queue = .ok node rest) :
    registry.readNode registry.parseUntil (.block contents) queue =
      .ok (some node) rest := by
  simp only [readNode, readBlock, hName, hFind, Bind.bind, EStateM.bind,
    Parser.ofExcept, hRun]
  rfl

theorem readNode_of_failed_tag {error : Error}
    (hRun : (reader registry.findFilter (.block contents)).run
      registry.parseUntil queue =
      .error error left) :
    registry.readNode registry.parseUntil (.block contents) queue =
      .error error left := by
  simp only [readNode, readBlock, hName, hFind, Bind.bind, EStateM.bind,
    Parser.ofExcept, hRun]

end Steps

end Registry

namespace Reading

variable (bodies : BodyParser) {queue rest left : List Token}

theorem run_take (after : Option Token → Reading α) :
    (Reading.take after).run bodies queue =
      (after queue.head?).run bodies queue.tail := by
  cases queue <;> rfl

theorem run_body_of_ok {stop : Token → Bool}
    {after : Except Error (List Node) → Reading α} {nodes : List Node}
    (hBody : bodies stop queue = .ok nodes rest) :
    (Reading.body stop after).run bodies queue =
      (after (.ok nodes)).run bodies rest := by
  simp only [run, Bind.bind, EStateM.bind, Parser.outcome, hBody]

theorem run_body_of_error {stop : Token → Bool}
    {after : Except Error (List Node) → Reading α} {error : Error}
    (hBody : bodies stop queue = .error error left) :
    (Reading.body stop after).run bodies queue =
      (after (.error error)).run bodies left := by
  simp only [run, Bind.bind, EStateM.bind, Parser.outcome, hBody]

end Reading

namespace Registry

variable {registry : Registry}

/-! ## The rules and the parsers -/

/-- What a job comes to is what its parser gives: there is one result at most. -/
theorem perform_eq_of_returns {job : Job} {queue : List Token}
    {result : Parsed job.Result} (h : registry.Returns job queue result) :
    registry.perform job queue = result := by
  induction h with
  | exhausted => rfl
  | stopped hEnds => exact registry.parseUntil_of_ends hEnds _
  | failed hEnds _ ihNode => exact parseUntil_of_failed_node hEnds ihNode
  | failedLater hEnds _ _ ihNode ihMore =>
      exact parseUntil_of_failed_rest hEnds ihNode ihMore
  | wentOn hEnds _ _ ihNode ihMore => exact parseUntil_of_parts hEnds ihNode ihMore
  | text => rfl
  | output hChain => exact readNode_of_output hChain
  | failedOutput hChain => exact readNode_of_failed_output hChain
  | comment => rfl
  | nameless hName => exact readNode_of_nameless hName
  | unknownTag hName hFind => exact readNode_of_unknown_tag hName hFind
  | tag hName hFind _ ih => exact readNode_of_tag hName hFind ih
  | failedTag hName hFind _ ih => exact readNode_of_failed_tag hName hFind ih
  | done => rfl
  | gaveUp => rfl
  | take _ ih => exact (Reading.run_take registry.parseUntil _).trans ih
  | parsed _ _ ihBody ihAfter =>
      exact (Reading.run_body_of_ok registry.parseUntil ihBody).trans ihAfter
  | notParsed _ _ ihBody ihAfter =>
      exact (Reading.run_body_of_error registry.parseUntil ihBody).trans ihAfter
  | ahead _ ih => exact ih

/-! ## Every job comes to an end -/

/-- The program of a tag comes to an end if the bodies do that it can parse, all of
which begin behind tokens that are taken already. -/
theorem returns_program {limit : Nat}
    (hBodies : ∀ stop (queue : List Token), queue.length ≤ limit →
      registry.Returns (.body stop) queue (registry.parseUntil stop queue))
    (reading : Reading Node) {queue : List Token} (hQueue : queue.length ≤ limit) :
    registry.Returns (.program reading) queue
      (reading.run registry.parseUntil queue) := by
  induction reading generalizing queue with
  | done node => exact .done
  | fail error => exact .gaveUp
  | take after ih =>
      have hTail : queue.tail.length ≤ limit := by
        rw [List.length_tail]
        omega
      rw [Reading.run_take]
      exact .take (ih queue.head? hTail)
  | body stop after ih =>
      have hTails := registry.tails_parseUntil stop queue
      have hBody := hBodies stop queue hQueue
      cases hParsed : registry.parseUntil stop queue with
      | ok nodes rest =>
          rw [Parser.left_of_ok hParsed] at hTails
          rw [hParsed] at hBody
          rw [Reading.run_body_of_ok _ hParsed]
          exact .parsed hBody (ih _ (Nat.le_trans hTails.length_le hQueue))
      | error error left =>
          rw [Parser.left_of_error hParsed] at hTails
          rw [hParsed] at hBody
          rw [Reading.run_body_of_error _ hParsed]
          exact .notParsed hBody (ih _ (Nat.le_trans hTails.length_le hQueue))
  | ahead after ih => exact .ahead (ih queue hQueue)

/-- So does making the node of a token. -/
theorem returns_node {limit : Nat}
    (hBodies : ∀ stop (queue : List Token), queue.length ≤ limit →
      registry.Returns (.body stop) queue (registry.parseUntil stop queue))
    (token : Token) {queue : List Token} (hQueue : queue.length ≤ limit) :
    registry.Returns (.node token) queue
      (registry.readNode registry.parseUntil token queue) := by
  cases token with
  | text contents => exact .text
  | comment contents => exact .comment
  | output contents =>
      cases hChain : FilterChain.compile registry.findFilter contents with
      | ok chain =>
          rw [readNode_of_output hChain]
          exact .output hChain
      | error error =>
          rw [readNode_of_failed_output hChain]
          exact .failedOutput hChain
  | block contents =>
      cases hName : (Token.block contents).name? with
      | none =>
          rw [readNode_of_nameless hName]
          exact .nameless hName
      | some name =>
          cases hFind : registry.findTag name with
          | error error =>
              rw [readNode_of_unknown_tag hName hFind]
              exact .unknownTag hName hFind
          | ok reader =>
              have hProgram :=
                returns_program hBodies (reader registry.findFilter
                  (.block contents)) hQueue
              cases hRun : (reader registry.findFilter (.block contents)).run
                registry.parseUntil queue with
              | ok node rest =>
                  rw [hRun] at hProgram
                  rw [readNode_of_tag hName hFind hRun]
                  exact .tag hName hFind hProgram
              | error error left =>
                  rw [hRun] at hProgram
                  rw [readNode_of_failed_tag hName hFind hRun]
                  exact .failedTag hName hFind hProgram

/-- A body comes to an end, since each turn of its loop takes a token. -/
private theorem returns_body (limit : Nat) (stop : Token → Bool) {queue : List Token}
    (hQueue : queue.length ≤ limit) :
    registry.Returns (.body stop) queue (registry.parseUntil stop queue) := by
  induction limit generalizing stop queue with
  | zero =>
      rw [List.length_eq_zero_iff.mp (Nat.le_zero.mp hQueue)]
      exact .exhausted
  | succ limit ih =>
      cases queue with
      | nil => exact .exhausted
      | cons token rest =>
          cases hEnds : ends stop token with
          | true =>
              rw [registry.parseUntil_of_ends hEnds]
              exact .stopped hEnds
          | false =>
              have hRest : rest.length ≤ limit := Nat.le_of_succ_le_succ hQueue
              have hToken := returns_node (fun stop _ => ih stop) token hRest
              have hTails :=
                registry.tails_readNode registry.tails_parseUntil token rest
              cases hNode : registry.readNode registry.parseUntil token rest with
              | error error left =>
                  rw [hNode] at hToken
                  rw [parseUntil_of_failed_node hEnds hNode]
                  exact .failed hEnds hToken
              | ok node middle =>
                  rw [hNode] at hToken
                  rw [Parser.left_of_ok hNode] at hTails
                  have hBody := ih stop (Nat.le_trans hTails.length_le hRest)
                  cases hMore : registry.parseUntil stop middle with
                  | error error left =>
                      rw [hMore] at hBody
                      rw [parseUntil_of_failed_rest hEnds hNode hMore]
                      exact .failedLater hEnds hToken hBody
                  | ok nodes left =>
                      rw [hMore] at hBody
                      rw [parseUntil_of_parts hEnds hNode hMore]
                      exact .wentOn hEnds hToken hBody

/-- Every job comes to an end, with the result that its parser gives. -/
theorem returns_perform (job : Job) (queue : List Token) :
    registry.Returns job queue (registry.perform job queue) := by
  have hBodies : ∀ stop (rest : List Token), rest.length ≤ queue.length →
      registry.Returns (.body stop) rest (registry.parseUntil stop rest) :=
    fun stop rest => returns_body queue.length stop
  cases job with
  | body stop => exact hBodies stop queue (Nat.le_refl _)
  | node token => exact returns_node hBodies token (Nat.le_refl _)
  | program reading => exact returns_program hBodies reading (Nat.le_refl _)

/-! ## What a body leaves -/

/-- After a body that has succeeded there is nothing left, or a block that ends
the body. -/
def Stopped : (job : Job) → Parsed job.Result → Prop
  | .body stop, .ok _ rest =>
    rest = [] ∨ ∃ contents more, rest = .block contents :: more ∧
      stop (.block contents) = true
  | _, _ => True

/-- A token that ends a body is a block. -/
private theorem exists_block_of_ends {stop : Token → Bool} {token : Token}
    (h : ends stop token = true) :
    ∃ contents, token = .block contents ∧ stop (.block contents) = true := by
  cases token with
  | block contents => exact ⟨contents, rfl, h⟩
  | text contents => cases h
  | output contents => cases h
  | comment contents => cases h

/-- The loop that parses a body stops at the end of the queue or at a block that ends
the body. -/
private theorem stopped_of_returns {job : Job} {queue : List Token}
    {result : Parsed job.Result} (h : registry.Returns job queue result) :
    Stopped job result := by
  induction h with
  | exhausted => exact .inl rfl
  | stopped hEnds =>
      obtain ⟨contents, rfl, hStop⟩ := exists_block_of_ends hEnds
      exact .inr ⟨contents, _, rfl, hStop⟩
  | wentOn _ _ _ _ ihMore => exact ihMore
  | _ => trivial

/-- Parsing a body always returns: the loops and calls that it sets off come to an end,
with one result and no other. Whether it succeeds or fails, what is left is a tail of
the queue, and after success that is empty or starts with a block that ends the body. -/
theorem parseUntil_returns (registry : Registry) (stop : Token → Bool)
    (queue : List Token) :
    (∀ result, registry.Returns (.body stop) queue result ↔
      result = registry.parseUntil stop queue) ∧
    match registry.parseUntil stop queue with
    | .ok _ rest => rest <:+ queue ∧
        (rest = [] ∨ ∃ contents more, rest = .block contents :: more ∧
          stop (.block contents) = true)
    | .error _ left => left <:+ queue := by
  have hReturns : registry.Returns (.body stop) queue
      (registry.parseUntil stop queue) :=
    returns_perform (.body stop) queue
  refine ⟨fun result => ⟨fun h => (perform_eq_of_returns h).symm,
    fun h => h ▸ hReturns⟩, ?_⟩
  have hStopped := stopped_of_returns hReturns
  have hTails := registry.tails_parseUntil stop queue
  cases hParsed : registry.parseUntil stop queue with
  | ok nodes rest =>
      rw [hParsed] at hStopped
      rw [Parser.left_of_ok hParsed] at hTails
      exact ⟨hTails, hStopped⟩
  | error error left =>
      rw [Parser.left_of_error hParsed] at hTails
      exact hTails

end Registry

end TextTemplate
