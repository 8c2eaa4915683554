import TextTemplate.Proofs.Parsing.Nesting
import TextTemplate.Proofs.Parsing.ParsedMarkup
import TextTemplate.Proofs.Parsing.Placement

/-!
# Parsing is local

Tags take tokens off a queue that they share with everything behind them, and a block
even looks at all of it before it takes any. This module proves that nothing behind the
token that ends a tag matters to the tag: what is read off a queue is read off every
longer queue, and the additional tokens are left. The one exception is the tag that
names a parent, which takes all there is. So the nodes of a template in two parts are
those of its parts, as long as the first part names no parent, and it has the errors of
the second.

Each reader is asked for what it reads, with parsers of bodies of which it is only known
that they take nested tokens and look no further than the token that ends a body. The
length of the queue then carries the induction.

## Main results

* `Tag.reads_loop` and its like — what a tag reads does not depend on what stands
  behind it.
* `Registry.goesOn` — a body goes on where its first part ended.
* `Registry.yields_of_parseAll` — what parses by itself parses in the body of any tag.
* `Registry.parseAll_append` — a template in two parts.
-/

namespace TextTemplate

open Reading

/-- Whatever stands behind the queue, the parser reads the value off it and leaves
the rest. -/
def Parser.Reads {α : Type} (parser : Parser α) (queue : List Token) (value : α)
    (rest : List Token) : Prop :=
  ∀ more, parser (queue ++ more) = .ok value (rest ++ more)

/-- The parsers of bodies look no further than the token that ends a body, on queues of
limited length. -/
def BodyParser.Local (bodies : BodyParser) (limit : Nat) : Prop :=
  ∀ ⦃stop queue nodes last rest⦄, queue.length ≤ limit →
    bodies stop queue = .ok nodes (last :: rest) →
    (bodies stop).Reads queue nodes (last :: rest)

/-- The result of a parser, changed by a function. -/
theorem Parser.map_apply {α β : Type} (change : α → β) (parser : Parser α)
    (queue : List Token) :
    (change <$> parser) queue =
      match parser queue with
      | .ok value rest => .ok (change value) rest
      | .error error rest => .error error rest := by
  show EStateM.map change parser queue = _
  unfold EStateM.map
  cases parser queue <;> rfl

/-! ## What tags read -/

namespace Tag

variable {find : FilterFinder} {token : Token} {bodies : BodyParser}
  {queue rest : List Token}
  {node : Node} {limit : Nat}

/-- A body that leaves something leaves a shorter queue behind the token that ends
it. -/
theorem length_lt_of_body (hNests : bodies.Nests limit) (hQueue : queue.length ≤ limit)
    {stop : Token → Bool} {nodes : List Node} {last : Token}
    (h : bodies stop queue = .ok nodes (last :: rest)) :
    rest.length < queue.length := by
  obtain ⟨-, taken, rfl, -⟩ := hNests hQueue h
  rw [List.length_append, List.length_cons]
  omega

private theorem reads_empty (hLocal : bodies.Local limit)
    (hQueue : queue.length ≤ limit) {terminator : Token} {empty : List Node}
    (h : (readEmpty terminator).run bodies queue = .ok empty rest) :
    ((readEmpty terminator).run bodies).Reads queue empty rest := by
  intro more
  obtain ⟨hEmpty, last, hBody⟩ | ⟨hClosed, rfl, rfl⟩ := run_readEmpty_eq_ok_iff.mp h
  · exact run_readEmpty_eq_ok_iff.mpr (.inl ⟨hEmpty, last, hLocal hQueue hBody more⟩)
  · exact run_readEmpty_eq_ok_iff.mpr (.inr ⟨hClosed, rfl, rfl⟩)

theorem reads_loop (hNests : bodies.Nests limit) (hLocal : bodies.Local limit)
    (hQueue : queue.length ≤ limit)
    (h : (readLoop find token).run bodies queue = .ok node rest) :
    ((readLoop find token).run bodies).Reads queue node rest := by
  intro more
  obtain ⟨header, body, terminator, middle, empty, source, condition, hHeader, hBody,
    hEmpty, hSource, hCondition, rfl⟩ := run_readLoop_eq_ok_iff.mp h
  have hMiddle := length_lt_of_body hNests hQueue hBody
  exact run_readLoop_eq_ok_iff.mpr ⟨header, body, terminator, middle ++ more, empty,
    source, condition, hHeader, hLocal hQueue hBody more,
      reads_empty hLocal (by omega) hEmpty more, hSource, hCondition, rfl⟩

private theorem reads_branch (hLocal : bodies.Local limit)
    (hQueue : queue.length ≤ limit) {branch : Branch Node} {last : Token}
    (h : (readBranch find token).run bodies queue = .ok branch (last :: rest)) :
    ((readBranch find token).run bodies).Reads queue branch (last :: rest) := by
  intro more
  obtain ⟨condition, body, hCondition, hBody, rfl⟩ := run_readBranch_eq_ok_iff.mp h
  exact run_readBranch_eq_ok_iff.mpr ⟨condition, body, hCondition,
    hLocal hQueue hBody more, rfl⟩

/-- Where no token ends the branch before, there is none behind the `elif`
branches either. -/
theorem run_readAlternatives_none_ne (find : FilterFinder)
    (branches : List (Branch Node)) (rounds : List Token) {last : Token} :
    (readAlternatives find rounds none).run bodies queue ≠
      .ok (branches, some last) rest := by
  intro h
  have hNone : ∀ token, (none : Option Token) = some token →
      token.isNamed ["elif"] = false :=
    fun _ hToken => nomatch hToken
  obtain ⟨-, hLast, -⟩ := (run_readAlternatives_of_not_elif hNone).mp h
  cases hLast

/-- The `elif` branches stop at a token that is none, so neither what stands behind it
matters nor how many rounds more there might be. -/
private theorem reads_alternatives (hNests : bodies.Nests limit)
    (hLocal : bodies.Local limit) {rounds : List Token} {terminator : Option Token}
    {last : Token} {branches : List (Branch Node)} (hQueue : queue.length ≤ limit)
    (hLast : last.isNamed ["elif"] = false)
    (h : (readAlternatives find rounds terminator).run bodies queue =
      .ok (branches, some last) rest) (moreRounds : List Token) :
    ((readAlternatives find (rounds ++ moreRounds) terminator).run bodies).Reads queue
      (branches, some last) rest := by
  have hStops : ∀ token, some last = some token → token.isNamed ["elif"] = false := by
    intro token hToken
    cases hToken
    exact hLast
  intro more
  induction rounds generalizing terminator queue branches with
  | nil =>
      obtain ⟨rfl, rfl, rfl⟩ := run_readAlternatives_nil.mp h
      exact (run_readAlternatives_of_not_elif hStops).mpr ⟨rfl, rfl, rfl⟩
  | cons round rounds ih =>
      by_cases hElif : ∃ token, terminator = some token ∧ token.isNamed ["elif"] = true
      · obtain ⟨token, rfl, hNamed⟩ := hElif
        obtain ⟨branch, middle, others, hBranch, hOthers, rfl⟩ :=
          (run_readAlternatives_of_elif hNamed).mp h
        cases middle with
        | nil => exact absurd hOthers (run_readAlternatives_none_ne find others rounds)
        | cons next behind =>
            obtain ⟨condition, body, -, hBody, -⟩ := run_readBranch_eq_ok_iff.mp hBranch
            have hShorter := length_lt_of_body hNests hQueue hBody
            exact (run_readAlternatives_of_elif hNamed).mpr ⟨branch,
              next :: (behind ++ more), others, reads_branch hLocal hQueue hBranch more,
              ih (Nat.le_trans (Nat.le_of_lt hShorter) hQueue) hOthers, rfl⟩
      · have hNot : ∀ token, terminator = some token → token.isNamed ["elif"] = false :=
          fun token hToken => eq_false_of_ne_true fun hNamed => hElif ⟨token,
            hToken, hNamed⟩
        obtain ⟨rfl, rfl, rfl⟩ := (run_readAlternatives_of_not_elif hNot).mp h
        exact (run_readAlternatives_of_not_elif hNot).mpr ⟨rfl, rfl, rfl⟩

private theorem reads_otherwise (hLocal : bodies.Local limit)
    (hQueue : queue.length ≤ limit) {terminator : Option Token} {closing : Token}
    {branches : List (Branch Node)}
    (h : (readOtherwise terminator).run bodies queue =
      .ok (branches, some closing) rest) :
    ((readOtherwise terminator).run bodies).Reads queue (branches,
      some closing) rest := by
  intro more
  obtain ⟨hElse, body, middle, hBody, rfl, hClosing, rfl⟩ | ⟨hElse, rfl, rfl, rfl⟩ :=
    run_readOtherwise_eq_ok_iff.mp h
  · cases middle with
    | nil => cases hClosing
    | cons last behind =>
        cases hClosing
        exact run_readOtherwise_eq_ok_iff.mpr
          (.inl ⟨hElse, body, closing :: (behind ++ more), hLocal hQueue hBody more,
            rfl, rfl, rfl⟩)
  · exact run_readOtherwise_eq_ok_iff.mpr (.inr ⟨hElse, rfl, rfl, rfl⟩)

/-- The token behind the `elif` branches of a choice that is read is none: it says
`else` or `endif`. -/
private theorem isNamed_elif_of_readOtherwise {next closing : Token}
    {branches : List (Branch Node)}
    (hNext : Registry.ends (Token.isNamed ["endif", "elif", "else"]) next = true)
    (hContents : closing.contents = "endif")
    (h : (readOtherwise (some next)).run bodies queue =
      .ok (branches, some closing) rest) :
    next.isNamed ["elif"] = false := by
  rw [Registry.eq_block_of_ends hNext]
  obtain ⟨hElse, -⟩ | ⟨-, -, hSame, -⟩ := run_readOtherwise_eq_ok_iff.mp h
  · rw [show next.contents = "else" from of_decide_eq_true hElse]
    decide
  · cases hSame
    rw [hContents]
    decide

private theorem reads_choice (hNests : bodies.Nests limit) (hLocal : bodies.Local limit)
    (hQueue : queue.length ≤ limit)
    (h : (readChoice find token).run bodies queue = .ok node rest) :
    ((readChoice find token).run bodies).Reads queue node rest := by
  intro more
  obtain ⟨first, middle, alternatives, next, later, otherwise, closing, hFirst,
    hAlternatives, hOtherwise, hContents, rfl⟩ := run_readChoice_eq_ok_iff.mp h
  obtain ⟨condition, body, -, hBody, -⟩ := run_readBranch_eq_ok_iff.mp hFirst
  obtain ⟨hStops, -⟩ := hNests hQueue hBody
  have hMiddle : middle.tail.length ≤ limit := by
    obtain ⟨-, taken, rfl, -⟩ := hNests hQueue hBody
    rw [List.length_append] at hQueue
    rw [List.length_tail]
    omega
  obtain ⟨hEnds, divided, count, hTokens, -⟩ :=
    divided_of_readAlternatives hNests hMiddle hStops hAlternatives
  cases next with
  | none =>
      obtain ⟨hElse, -⟩ | ⟨-, -, hNone, -⟩ := run_readOtherwise_eq_ok_iff.mp hOtherwise
      · cases hElse
      · cases hNone
  | some next =>
      have hNotElif :=
        isNamed_elif_of_readOtherwise (hEnds next rfl) hContents hOtherwise
      cases middle with
      | nil =>
          exact absurd hAlternatives (run_readAlternatives_none_ne find alternatives _)
      | cons start behind =>
          have hLater : later.length ≤ limit := by
            have hLengths := congrArg List.length hTokens
            simp only [List.head?_cons, Option.toList_some, List.tail_cons,
              List.length_append, List.length_singleton] at hLengths
            rw [List.tail_cons] at hMiddle
            have hBehind := length_lt_of_body hNests hQueue hBody
            omega
          have hRounds := reads_alternatives hNests hLocal hMiddle hNotElif
            hAlternatives more more
          exact run_readChoice_eq_ok_iff.mpr ⟨first, start :: (behind ++ more),
            alternatives, some next, later ++ more, otherwise, closing,
              reads_branch hLocal hQueue hFirst more, hRounds,
            reads_otherwise hLocal hLater hOtherwise more, hContents, rfl⟩

private theorem reads_holding (hLocal : bodies.Local limit)
    (hQueue : queue.length ≤ limit) {terminator : Token} {holding : List Node}
    (h : (readHolding terminator).run bodies queue = .ok holding rest) :
    ((readHolding terminator).run bodies).Reads queue holding rest := by
  intro more
  obtain ⟨hElse, last, hBody⟩ | ⟨hClosed, rfl, rfl⟩ := run_readHolding_eq_ok_iff.mp h
  · exact run_readHolding_eq_ok_iff.mpr (.inl ⟨hElse, last, hLocal hQueue hBody more⟩)
  · exact run_readHolding_eq_ok_iff.mpr (.inr ⟨hClosed, rfl, rfl⟩)

private theorem reads_negatedChoice (hNests : bodies.Nests limit)
    (hLocal : bodies.Local limit) (hQueue : queue.length ≤ limit)
    (h : (readNegatedChoice find token).run bodies queue = .ok node rest) :
    ((readNegatedChoice find token).run bodies).Reads queue node rest := by
  intro more
  obtain ⟨failing, terminator, middle, holding, condition, hLength, hFailing, hHolding,
    hCondition, rfl⟩ :=
    run_readNegatedChoice_eq_ok_iff.mp h
  have hMiddle := length_lt_of_body hNests hQueue hFailing
  exact run_readNegatedChoice_eq_ok_iff.mpr ⟨failing, terminator, middle ++ more,
    holding, condition, hLength, hLocal hQueue hFailing more,
      reads_holding hLocal (by omega) hHolding more, hCondition, rfl⟩

private theorem reads_filtered (hLocal : bodies.Local limit)
    (hQueue : queue.length ≤ limit)
    (h : (readFiltered find token).run bodies queue = .ok node rest) :
    ((readFiltered find token).run bodies).Reads queue node rest := by
  intro more
  obtain ⟨tag, filters, body, last, chain, hComponents, hBody, hChain, rfl⟩ :=
    run_readFiltered_eq_ok_iff.mp h
  exact run_readFiltered_eq_ok_iff.mpr
    ⟨tag, filters, body, last, chain, hComponents, hLocal hQueue hBody more,
      hChain, rfl⟩

/-- Looking ahead for what a block mentions comes to an end where the block does. -/
private theorem superAhead_of_body (hNests : bodies.Nests limit)
    (hQueue : queue.length ≤ limit) {body : List Node} {last : Token}
    (h : bodies (Token.isNamed ["endblock"]) queue = .ok body (last :: rest))
    (more : List Token) :
    superAhead 0 (queue ++ more) = superAhead 0 queue := by
  obtain ⟨inside, -, -, hAhead⟩ := superAhead_eq_any hNests hQueue h
  rw [hAhead more, ← hAhead [], List.append_nil]

private theorem reads_block (hNests : bodies.Nests limit) (hLocal : bodies.Local limit)
    (hQueue : queue.length ≤ limit)
    (h : (readBlock find token).run bodies queue = .ok node rest) :
    ((readBlock find token).run bodies).Reads queue node rest := by
  intro more
  obtain ⟨tag, name, body, last, hComponents, hBody, rfl⟩ :=
    run_readBlock_eq_ok_iff.mp h
  refine run_readBlock_eq_ok_iff.mpr ⟨tag, name, body, last, hComponents,
    hLocal hQueue hBody more, ?_⟩
  rw [superAhead_of_body hNests hQueue hBody]

private theorem reads_embed
    (h : (readEmbed find token).run bodies queue = .ok node rest) :
    ((readEmbed find token).run bodies).Reads queue node rest := by
  intro more
  obtain ⟨tag, template, bindings, hComponents, rfl, rfl⟩ :=
    run_readEmbed_eq_ok_iff.mp h
  exact run_readEmbed_eq_ok_iff.mpr ⟨tag, template, bindings, hComponents, rfl, rfl⟩

private theorem reads_now (h : (readNow find token).run bodies queue = .ok node rest) :
    ((readNow find token).run bodies).Reads queue node rest := by
  intro more
  obtain ⟨tag, format, hComponents, rfl, rfl⟩ := run_readNow_eq_ok_iff.mp h
  exact run_readNow_eq_ok_iff.mpr ⟨tag, format, hComponents, rfl, rfl⟩

end Tag

/-! ## What bodies read -/

namespace Registry

variable {registry : Registry} {bodies : BodyParser} {limit : Nat} {token : Token}
  {queue rest : List Token} {node : Option Node}

/-- A token without a word means the same wherever it stands. -/
private theorem reads_of_word? (hWord : token.word? = none)
    (h : registry.readNode bodies token queue = .ok node rest) :
    (registry.readNode bodies token).Reads queue node rest := by
  intro more
  cases token with
  | text contents => cases h; rfl
  | comment contents => cases h; rfl
  | output contents =>
      obtain ⟨chain, middle, hChain, hEnd⟩ := Parser.bind_eq_ok_iff.mp h
      obtain ⟨hCompiled, rfl⟩ := Parser.ofExcept_eq_ok_iff.mp hChain
      cases hEnd
      exact Parser.bind_eq_ok_iff.mpr
        ⟨chain, queue ++ more, Parser.ofExcept_eq_ok_iff.mpr ⟨hCompiled, rfl⟩, rfl⟩
  | block contents =>
      have hName : (Token.block contents).name? = none := hWord
      have hRead : ∀ queue, registry.readNode bodies (.block contents) queue =
          .ok none queue := by
        intro queue
        show registry.readBlock bodies (.block contents) queue = _
        simp only [readBlock, hName]
        rfl
      rw [hRead] at h ⊢
      cases h
      rfl

/-- A node is read whatever stands behind its tokens, unless it names a parent and so
took all there were. -/
private theorem reads_node (hStandard : registry.HasStandardTags)
    (hNests : bodies.Nests limit) (hLocal : bodies.Local limit)
    (hQueue : queue.length ≤ limit)
    (h : registry.readNode bodies token queue = .ok node rest)
    (hPlain : node.toList.any Tag.isInherit = false) :
    (registry.readNode bodies token).Reads queue node rest := by
  cases hWord : token.word? with
  | none => exact reads_of_word? hWord h
  | some word =>
      obtain ⟨reader, found, hFind, hRun, rfl⟩ := (readNode_eq_ok_iff hWord).mp h
      have hMem := hStandard.mem_of_findTag hFind
      suffices hReads : ((reader registry.findFilter token).run bodies).Reads queue
          found rest from
        fun more => (readNode_eq_ok_iff hWord).mpr ⟨reader, found, hFind,
          hReads more, rfl⟩
      simp only [standardTags, List.mem_cons, Prod.mk.injEq, List.not_mem_nil, or_false]
        at hMem
      obtain ⟨rfl, rfl⟩ | ⟨rfl, rfl⟩ | ⟨rfl, rfl⟩ | ⟨rfl, rfl⟩ | ⟨rfl, rfl⟩ |
        ⟨rfl, rfl⟩ | ⟨rfl, rfl⟩ | ⟨rfl, rfl⟩ := hMem
      · exact Tag.reads_loop hNests hLocal hQueue hRun
      · exact Tag.reads_choice hNests hLocal hQueue hRun
      · exact Tag.reads_negatedChoice hNests hLocal hQueue hRun
      · exact Tag.reads_now hRun
      · exact Tag.reads_embed hRun
      · obtain ⟨_, _, _, -, -, -, rfl⟩ := Tag.run_readInherit_eq_ok_iff.mp hRun
        cases hPlain
      · exact Tag.reads_block hNests hLocal hQueue hRun
      · exact Tag.reads_filtered hLocal hQueue hRun

/-- Behind the node of its first token a body goes on. -/
theorem parseUntil_cons_of_readNode {stop : Token → Bool}
    (hEnds : ends stop token = false)
    (hNode : registry.readNode registry.parseUntil token queue = .ok node rest) :
    registry.parseUntil stop (token :: queue) =
      ((node.toList ++ ·) <$> registry.parseUntil stop) rest := by
  rw [registry.parseUntil_cons hEnds, Parser.map_apply]
  simp only [Bind.bind, EStateM.bind, hNode]
  cases registry.parseUntil stop rest <;> rfl

/-- A body with something behind it names no parent. -/
private theorem plain_of_left (hStandard : registry.HasStandardTags)
    {stop : Token → Bool} {nodes : List Node}
    (h : registry.parseUntil stop queue = .ok nodes rest) (hRest : rest ≠ []) :
    nodes.any Tag.isInherit = false := by
  obtain ⟨-, -, hInner, -⟩ := places_parseUntil hStandard _ (Nat.le_refl _) h
  refine List.any_eq_false.mpr fun node hMem hInherit => ?_
  have hNode :=
    (hInner hRest node (Node.mem_partsOf_iff.mpr ⟨node, hMem, node.mem_parts⟩)).2
  rw [hInherit] at hNode
  cases hNode

/-- A token that is read as no parent is one that a tree may open with. -/
private theorem word?_of_readNode (hStandard : registry.HasStandardTags)
    (h : registry.readNode registry.parseUntil token queue = .ok node rest)
    (hPlain : node.toList.any Tag.isInherit = false) : token.word? ∈ openingWords := by
  cases hWord : token.word? with
  | none => exact List.mem_cons_self
  | some word =>
      obtain ⟨reader, found, hFind, hRun, rfl⟩ := (readNode_eq_ok_iff hWord).mp h
      have hMem := hStandard.mem_of_findTag hFind
      simp only [standardTags, List.mem_cons, Prod.mk.injEq, List.not_mem_nil, or_false]
        at hMem
      obtain ⟨rfl, rfl⟩ | ⟨rfl, rfl⟩ | ⟨rfl, rfl⟩ | ⟨rfl, rfl⟩ | ⟨rfl, rfl⟩ |
        ⟨rfl, rfl⟩ | ⟨rfl, rfl⟩ | ⟨rfl, rfl⟩ := hMem
      case inr.inr.inr.inr.inr.inl =>
        obtain ⟨_, _, _, -, -, -, rfl⟩ := Tag.run_readInherit_eq_ok_iff.mp hRun
        cases hPlain
      all_goals decide

/-- Bodies that name no parent go on where their first part ended, in a tag that ends
its bodies at other tokens, too, if no such token stands among those that were read. -/
def GoesOn (registry : Registry) (limit : Nat) : Prop :=
  ∀ ⦃stop other queue nodes rest⦄, queue.length ≤ limit →
    registry.parseUntil stop queue = .ok nodes rest → nodes.any Tag.isInherit = false →
    (∀ token : Token, token.word? ∈ openingWords → ends stop token = false →
      ends other token = false) →
    ∀ more, registry.parseUntil other (queue ++ more) =
      ((nodes ++ ·) <$> registry.parseUntil other) (rest ++ more)

theorem GoesOn.isLocal (hStandard : registry.HasStandardTags)
    (h : registry.GoesOn limit) :
    BodyParser.Local registry.parseUntil limit := by
  intro stop queue nodes last rest hQueue hBody more
  obtain ⟨hStops, -⟩ := nests_parseUntil hStandard limit hQueue hBody
  rw [h hQueue hBody (plain_of_left hStandard hBody (List.cons_ne_nil _ _))
    (fun _ _ => id) more]
  simp only [Parser.map_apply, List.cons_append,
    registry.parseUntil_of_ends (hStops last rfl), List.append_nil]

/-- Inside a tag the bodies are shorter, so they are local when the tag is read. -/
theorem goesOn (hStandard : registry.HasStandardTags) (limit : Nat) :
    registry.GoesOn limit := by
  have hNone : ∀ stop queue,
      ((([] : List Node) ++ ·) <$> registry.parseUntil stop) queue =
      registry.parseUntil stop queue := by
    intro stop queue
    rw [Parser.map_apply]
    cases registry.parseUntil stop queue <;> rfl
  induction limit with
  | zero =>
      intro stop other queue nodes rest hQueue h _ _ more
      cases List.length_eq_zero_iff.mp (Nat.le_zero.mp hQueue)
      cases h
      exact (hNone other _).symm
  | succ limit ih =>
      intro stop other queue nodes rest hQueue h hPlain hOther more
      cases queue with
      | nil =>
          cases h
          exact (hNone other _).symm
      | cons token queue =>
          have hShorter : queue.length ≤ limit := Nat.le_of_succ_le_succ hQueue
          cases hEnds : ends stop token with
          | true =>
              rw [registry.parseUntil_of_ends hEnds] at h
              cases h
              exact (hNone other _).symm
          | false =>
              rw [registry.parseUntil_cons hEnds] at h
              obtain ⟨node, middle, hNode, hMore⟩ := Parser.bind_eq_ok_iff.mp h
              obtain ⟨others, last, hOthers, hEnd⟩ := Parser.bind_eq_ok_iff.mp hMore
              cases hEnd
              rw [List.any_append, Bool.or_eq_false_iff] at hPlain
              have hTails :=
                registry.tails_readNode registry.tails_parseUntil token queue
              rw [Parser.left_of_ok hNode] at hTails
              have hReads := reads_node hStandard (nests_parseUntil hStandard limit)
                (ih.isLocal hStandard) hShorter hNode hPlain.1 more
              have hGoesOn := ih (Nat.le_trans hTails.length_le hShorter) hOthers
                hPlain.2 hOther more
              have hPasses :=
                hOther token (word?_of_readNode hStandard hNode hPlain.1) hEnds
              rw [List.cons_append, parseUntil_cons_of_readNode hPasses hReads,
                Parser.map_apply, hGoesOn, Parser.map_apply, Parser.map_apply]
              cases registry.parseUntil other (rest ++ more) with
              | ok found left => simp only [List.append_assoc]
              | error error left => rfl

/-- The tokens of a template that names no parent are read as its nodes in the body of
any tag. -/
theorem yields_of_parseAll (hStandard : registry.HasStandardTags)
    {tokens left : List Token} {nodes : List Node}
    (h : registry.parseAll tokens = .ok nodes left)
    (hPlain : nodes.any Tag.isInherit = false) : registry.Yields tokens nodes := by
  have hNil : left = [] := registry.parseAll_leaves_nil h
  subst hNil
  intro stop hPasses rest others left hRest
  rw [goesOn hStandard tokens.length (Nat.le_refl _) h hPlain
    (fun token hWord _ => hPasses token hWord) rest,
    Parser.map_apply, List.nil_append, hRest]

/-- A template in two parts, the first of which names no parent: its nodes are those of
its parts, and an error in the second part is the error of the whole, with the same
tokens left. -/
theorem parseAll_append (hStandard : registry.HasStandardTags) {first left : List Token}
    {nodes : List Node} (h : registry.parseAll first = .ok nodes left)
    (hPlain : nodes.any Tag.isInherit = false) (second : List Token) :
    registry.parseAll (first ++ second) =
      match registry.parseAll second with
      | .ok others rest => .ok (nodes ++ others) rest
      | .error error rest => .error error rest := by
  have hNil : left = [] := registry.parseAll_leaves_nil h
  subst hNil
  have hWhole : registry.parseAll (first ++ second) =
      ((nodes ++ ·) <$> registry.parseAll) second :=
    goesOn hStandard first.length (Nat.le_refl _) h hPlain (fun _ _ => id) second
  rw [hWhole, Parser.map_apply]
  cases registry.parseAll second <;> rfl

/-- A block does not take notice of the block behind it, which mentions what
it replaces. -/
theorem parseAll_append_of_blocks :
    Registry.parseAll [Extension.standard]
        [.block "block title", .text "Home", .block "endblock", .block "block body",
          .output "block.super", .block "endblock"] =
      .ok [.block ⟨"title", false, [.text "Home"]⟩,
        .block ⟨"body", true,
          [.output (.filtered ⟨"block.super", Variable.ofString "block.super", []⟩)]⟩]
            [] := by
  have hFirst : Registry.parseAll [Extension.standard]
      [.block "block title", .text "Home", .block "endblock"] =
        .ok [.block ⟨"title", false, [.text "Home"]⟩] [] := rfl
  have hSecond : Registry.parseAll [Extension.standard]
      [.block "block body", .output "block.super", .block "endblock"] =
        .ok [.block ⟨"body", true,
          [.output (.filtered ⟨"block.super", Variable.ofString "block.super", []⟩)]⟩]
            [] := rfl
  have hWhole := parseAll_append (fun name => rfl) hFirst rfl
    [.block "block body", .output "block.super", .block "endblock"]
  rw [hSecond] at hWhole
  exact hWhole

end Registry

end TextTemplate
