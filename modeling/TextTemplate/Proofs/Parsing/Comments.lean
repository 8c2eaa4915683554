import TextTemplate.Proofs.Parsing.Readers
import TextTemplate.Proofs.Parsing.Return

/-!
# Comments are inert

A body drops the comments that it comes upon, but it is not the only one that sees the
queue: tags take the tokens that end their bodies off it, and a block looks at
everything that is left. This module proves that none of them notices a comment, be it
one that reads like a tag or that mentions `block.super`. Without its comments a
template has the same nodes, or fails with the same error and the same tokens left,
comments apart.

A parser is blind to comments at a queue if it does the same without them. Parts that
are blind, one after the other, make a whole that is, as long as every tag takes a token
only where no comment can stand: right behind a body, at the block that ends it. The
rest is an induction on the length of the queue.

## Main results

* `Tag.superAhead_uncommented` — looking ahead overlooks comments.
* `Tag.overlooks_readLoop` and its like — one for each tag.
* `Registry.parseAll_uncommented` — a template without its comments.
-/

namespace TextTemplate

open Reading

/-- Tokens without their comments. -/
def uncommented (tokens : List Token) : List Token :=
  tokens.filter fun token => !token.isComment

/-- No comment comes next. -/
def Paused (queue : List Token) : Prop :=
  ∀ token, queue.head? = some token → token.isComment = false

theorem Token.eq_comment {token : Token} (h : token.isComment = true) :
    token = .comment token.contents := by
  cases token with
  | comment contents => rfl
  | _ => cases h

theorem uncommented_comment (contents : String) (rest : List Token) :
    uncommented (.comment contents :: rest) = uncommented rest := rfl

theorem uncommented_cons {token : Token} (h : token.isComment = false)
    (rest : List Token) :
    uncommented (token :: rest) = token :: uncommented rest := by
  rw [uncommented, List.filter_cons, h]
  rfl

private theorem length_uncommented_le (tokens : List Token) :
    (uncommented tokens).length ≤ tokens.length :=
  List.length_filter_le _ _

theorem Paused.head?_uncommented {queue : List Token} (h : Paused queue) :
    (uncommented queue).head? = queue.head? := by
  cases queue with
  | nil => rfl
  | cons token rest => rw [uncommented_cons (h token rfl)]; rfl

theorem Paused.tail_uncommented {queue : List Token} (h : Paused queue) :
    (uncommented queue).tail = uncommented queue.tail := by
  cases queue with
  | nil => rfl
  | cons token rest => rw [uncommented_cons (h token rfl)]; rfl

/-! ## Parsers that overlook comments -/

/-- What a parser comes to, without the comments that it leaves. -/
def withoutComments {α : Type} : Parsed α → Parsed α
  | .ok value rest => .ok value (uncommented rest)
  | .error error left => .error error (uncommented left)

/-- Without the comments in a queue, the second parser does what the first one does with
them. If it succeeds, no more is left than there was and what is left is as demanded. -/
def Parser.Blind {α : Type} (first second : Parser α) (queue : List Token)
    (after : α → List Token → Prop) : Prop :=
  second (uncommented queue) = withoutComments (first queue) ∧
    ∀ value rest, first queue = .ok value rest → rest <:+ queue ∧ after value rest

namespace Parser.Blind

variable {α : Type} {first second : Parser α} {queue rest left : List Token}
  {after : α → List Token → Prop}

theorem of_ok {value : α} (hFirst : first queue = .ok value rest)
    (hSecond : second (uncommented queue) = .ok value (uncommented rest))
    (hRest : rest <:+ queue) (hAfter : after value rest) :
    first.Blind second queue after := by
  refine ⟨by rw [hFirst, hSecond]; rfl, fun _ _ hOk => ?_⟩
  cases hFirst.symm.trans hOk
  exact ⟨hRest, hAfter⟩

theorem of_error {error : Error} (hFirst : first queue = .error error left)
    (hSecond : second (uncommented queue) = .error error (uncommented left)) :
    first.Blind second queue after :=
  ⟨by rw [hFirst, hSecond]; rfl, fun _ _ hOk => nomatch hFirst.symm.trans hOk⟩

/-- A parser that takes nothing. -/
theorem idle {value : α} (h : ∀ tokens, first tokens = .ok value tokens) :
    first.Blind first queue fun _ _ => True :=
  of_ok (h queue) (h (uncommented queue)) List.suffix_rfl trivial

/-- A parser that fails at once. -/
theorem failing {error : Error} (h : ∀ tokens, first tokens = .error error tokens) :
    first.Blind first queue after :=
  of_error (h queue) (h (uncommented queue))

end Parser.Blind

/-- Bodies are parsed the same without the comments in queues of limited length, and no
comment comes behind them. -/
def BodyParser.Blind (bodies : BodyParser) (limit : Nat) : Prop :=
  ∀ stop (queue : List Token), queue.length ≤ limit →
    (bodies stop).Blind (bodies stop) queue fun _ rest => Paused rest

namespace Reading

variable {α β : Type} {bodies : BodyParser} {queue : List Token}

/-- Programs of which the second does without comments what the first one does
with them. -/
abbrev Blind (bodies : BodyParser) (first second : Reading α) (queue : List Token)
    (after : α → List Token → Prop) : Prop :=
  Parser.Blind (first.run bodies) (second.run bodies) queue after

/-- A program that does the same without comments. -/
abbrev Overlooks (bodies : BodyParser) (reading : Reading α) (queue : List Token)
    (after : α → List Token → Prop) : Prop :=
  Blind bodies reading reading queue after

namespace Blind

theorem pure {after : α → List Token → Prop} {value : α} (h : after value queue) :
    Overlooks bodies (Pure.pure value) queue after := by
  refine ⟨rfl, fun _ _ hOk => ?_⟩
  cases hOk
  exact ⟨List.suffix_rfl, h⟩

theorem fault {after : α → List Token → Prop} (cause : Fault) :
    Overlooks bodies (Reading.fault cause) queue after :=
  ⟨rfl, fun _ _ hOk => nomatch hOk⟩

theorem ofExcept {outcome : Except Error α} :
    Overlooks bodies (Reading.ofExcept outcome) queue fun _ rest => rest = queue := by
  cases outcome with
  | ok value => exact pure rfl
  | error error => exact ⟨rfl, fun _ _ hOk => nomatch hOk⟩

theorem bind {first second : Reading α} {next other : α → Reading β}
    {middle : α → List Token → Prop} {after : β → List Token → Prop}
    (hFirst : Blind bodies first second queue middle)
    (hNext : ∀ value rest, rest <:+ queue → middle value rest →
      Blind bodies (next value) (other value) rest after) :
    Blind bodies (first >>= next) (second >>= other) queue after := by
  obtain ⟨hSame, hMiddle⟩ := hFirst
  unfold Blind Parser.Blind
  rw [run_bind, run_bind]
  cases hRun : first.run bodies queue with
  | error error left =>
      rw [hRun] at hSame
      have hSecond : second.run bodies (uncommented queue) =
          .error error (uncommented left) := hSame
      simp only [Bind.bind, EStateM.bind, hRun, hSecond]
      exact ⟨rfl, fun _ _ hOk => nomatch hOk⟩
  | ok value rest =>
      rw [hRun] at hSame
      have hSecond : second.run bodies (uncommented queue) =
          .ok value (uncommented rest) := hSame
      obtain ⟨hRest, hValue⟩ := hMiddle value rest hRun
      obtain ⟨hLater, hAfter⟩ := hNext value rest hRest hValue
      simp only [Bind.bind, EStateM.bind, hRun, hSecond]
      refine ⟨hLater, fun found left hOk => ?_⟩
      obtain ⟨hLeft, hFound⟩ := hAfter found left hOk
      exact ⟨hLeft.trans hRest, hFound⟩

/-- Where no comment comes next, a token is taken. -/
theorem next (hPaused : Paused queue) :
    Overlooks bodies Reading.next queue fun _ _ => True := by
  have hNext : ∀ tokens : List Token, Reading.next.run bodies tokens =
      .ok tokens.head? tokens.tail :=
    fun _ => run_next_eq_ok_iff.mpr ⟨rfl, rfl⟩
  refine .of_ok (hNext queue) ?_ (List.tail_suffix queue) trivial
  rw [hNext, hPaused.head?_uncommented, hPaused.tail_uncommented]

/-- So is the token that closes a tag. -/
theorem close (closing : String) (hPaused : Paused queue) :
    Overlooks bodies (Reading.close closing) queue fun _ _ => True := by
  refine (next hPaused).bind fun token rest _ _ => ?_
  cases token with
  | some token => exact pure trivial
  | none => exact fault _

/-- What is seen of the tokens that are left may differ, as long as the same comes
of it. -/
theorem ahead {next other : List Token → Reading α} {after : α → List Token → Prop}
    (h : Blind bodies (next queue) (other (uncommented queue)) queue after) :
    Blind bodies (Reading.rest >>= next) (Reading.rest >>= other) queue after :=
  h

variable {limit : Nat} (hBodies : bodies.Blind limit) (hQueue : queue.length ≤ limit)

include hBodies hQueue

theorem bodyUntil (names : List String) :
    Overlooks bodies (Reading.bodyUntil names) queue fun _ rest => Paused rest := by
  unfold Overlooks Blind Parser.Blind
  rw [run_bodyUntil, run_bodyUntil]
  exact hBodies (Token.isNamed names) queue hQueue

/-- A body and the token that closes it. -/
theorem closed (names : List String) (closing : String) :
    Overlooks bodies
      (do
        let body ← Reading.bodyUntil names
        let _ ← Reading.close closing
        return body)
      queue fun _ _ => True :=
  (bodyUntil hBodies hQueue names).bind fun _ _ _ hPaused =>
    (close closing hPaused).bind fun _ _ _ _ => pure trivial

end Blind

end Reading

/-! ## What tags see -/

namespace Tag

/-- Looking ahead overlooks comments. -/
theorem superAhead_uncommented (depth : Nat) (queue : List Token) :
    superAhead depth (uncommented queue) = superAhead depth queue := by
  induction queue generalizing depth with
  | nil => rfl
  | cons token rest ih =>
      cases hComment : token.isComment with
      | true =>
          rw [Token.eq_comment hComment, uncommented_comment, ih, superAhead_cons rfl]
          rfl
      | false =>
          rw [uncommented_cons hComment]
          cases hAfter : depthAfter depth token with
          | none => simp only [superAhead, hAfter]
          | some after => rw [superAhead_cons hAfter, superAhead_cons hAfter, ih]

variable {find : FilterFinder} {token : Token} {bodies : BodyParser}
  {queue : List Token}

/-- With at least one round for each token in the queue, it does not matter how many
there are. -/
private theorem run_readAlternatives_congr (hTails : ∀ stop, (bodies stop).Tails)
    {rounds others : List Token} {terminator : Option Token}
    (hRounds : terminator.isSome → queue.length < rounds.length ∧
      queue.length < others.length) :
    (readAlternatives find rounds terminator).run bodies queue =
      (readAlternatives find others terminator).run bodies queue := by
  induction rounds generalizing others terminator queue with
  | nil =>
      cases terminator with
      | none => cases others <;> rfl
      | some token => exact absurd (hRounds rfl).1 (Nat.not_lt_zero _)
  | cons round rounds ih =>
      cases terminator with
      | none => cases others <;> rfl
      | some token =>
          cases others with
          | nil => exact absurd (hRounds rfl).2 (Nat.not_lt_zero _)
          | cons other others =>
              obtain ⟨hFirst, hSecond⟩ := hRounds rfl
              unfold readAlternatives
              split
              · have hTail := tails_run hTails (readBranch find token) queue
                cases hBranch : (readBranch find token).run bodies queue with
                | error error left =>
                    rw [run_bind_of_error hBranch, run_bind_of_error hBranch]
                | ok branch middle =>
                    rw [Parser.left_of_ok hBranch] at hTail
                    have hMiddle := hTail.length_le
                    have hMore : (readAlternatives find rounds middle.head?).run bodies
                        middle.tail =
                        (readAlternatives find others middle.head?).run bodies
                        middle.tail := by
                      refine ih fun hSome => ?_
                      cases middle with
                      | nil => cases hSome
                      | cons next behind =>
                          simp only [List.length_cons, List.tail_cons]
                            at hMiddle hFirst hSecond ⊢
                          omega
                    have hNext : Reading.next.run bodies middle =
                        .ok middle.head? middle.tail :=
                      run_next_eq_ok_iff.mpr ⟨rfl, rfl⟩
                    rw [run_bind_of_ok hBranch, run_bind_of_ok hBranch,
                      run_bind_of_ok hNext, run_bind_of_ok hNext, run_bind, run_bind]
                    simp only [Bind.bind, EStateM.bind, hMore]
              · rfl

variable {limit : Nat} (hBodies : bodies.Blind limit) (hQueue : queue.length ≤ limit)

include hBodies hQueue

private theorem overlooks_readEmpty (terminator : Token) :
    Overlooks bodies (readEmpty terminator) queue fun _ _ => True := by
  unfold readEmpty
  split
  · exact .closed hBodies hQueue _ _
  · exact .pure trivial

theorem overlooks_readLoop :
    Overlooks bodies (readLoop find token) queue fun _ _ => True := by
  unfold readLoop
  split
  · exact .fault _
  · refine (Blind.bodyUntil hBodies hQueue _).bind fun body rest hRest hPaused => ?_
    refine (Blind.close _ hPaused).bind fun terminator middle hMiddle _ => ?_
    have hLength : middle.length ≤ limit :=
      Nat.le_trans (hMiddle.trans hRest).length_le hQueue
    refine (overlooks_readEmpty hBodies hLength terminator).bind
      fun empty left _ _ => ?_
    refine Blind.ofExcept.bind fun source _ _ _ => ?_
    exact Blind.ofExcept.bind fun condition _ _ _ => .pure trivial

private theorem overlooks_readBranch :
    Overlooks bodies (readBranch find token) queue fun _ rest => Paused rest := by
  unfold readBranch readCondition
  refine Blind.ofExcept.bind fun condition rest _ hRest => ?_
  subst hRest
  exact (Blind.bodyUntil hBodies hQueue _).bind fun _ _ _ hPaused => .pure hPaused

/-- The branches of a choice are read alike in as many rounds. -/
private theorem overlooks_readAlternatives (rounds : List Token)
    (terminator : Option Token) :
    Overlooks bodies (readAlternatives find rounds terminator) queue
      fun _ _ => True := by
  induction rounds generalizing terminator queue with
  | nil => exact .pure trivial
  | cons round rounds ih =>
      cases terminator with
      | none => exact .pure trivial
      | some token =>
          unfold readAlternatives
          split
          · refine (overlooks_readBranch hBodies hQueue).bind
              fun branch rest hRest hPaused => ?_
            refine (Blind.next hPaused).bind fun next middle hMiddle _ => ?_
            have hLength : middle.length ≤ limit :=
              Nat.le_trans (hMiddle.trans hRest).length_le hQueue
            exact (ih hLength next).bind fun found _ _ _ => .pure trivial
          · exact .pure trivial

/-- All branches are read alike, although there are fewer rounds without the
comments. -/
private theorem blind_allAlternatives (hTails : ∀ stop, (bodies stop).Tails)
    (terminator : Option Token) :
    Blind bodies (readAlternatives find (token :: queue) terminator)
      (readAlternatives find (token :: uncommented queue) terminator) queue
        fun _ _ => True := by
  have hRounds : (readAlternatives find
      (token :: uncommented queue) terminator).run bodies (uncommented queue) =
      (readAlternatives find (token :: queue) terminator).run bodies
      (uncommented queue) := by
    have hLess := length_uncommented_le queue
    exact run_readAlternatives_congr hTails fun _ => by
      simp only [List.length_cons]
      omega
  unfold Blind Parser.Blind
  rw [hRounds]
  exact overlooks_readAlternatives hBodies hQueue (token :: queue) terminator

private theorem overlooks_readOtherwise (terminator : Option Token) :
    Overlooks bodies (readOtherwise terminator) queue fun _ _ => True := by
  unfold readOtherwise
  split
  · refine (Blind.bodyUntil hBodies hQueue _).bind fun body rest _ hPaused => ?_
    exact (Blind.next hPaused).bind fun _ _ _ _ => .pure trivial
  · exact .pure trivial

private theorem overlooks_readChoice (hTails : ∀ stop, (bodies stop).Tails) :
    Overlooks bodies (readChoice find token) queue fun _ _ => True := by
  unfold readChoice
  refine (overlooks_readBranch hBodies hQueue).bind fun first rest hRest hPaused => ?_
  refine (Blind.next hPaused).bind fun terminator middle hMiddle _ => ?_
  have hLength : middle.length ≤ limit :=
    Nat.le_trans (hMiddle.trans hRest).length_le hQueue
  refine Blind.ahead ?_
  refine (blind_allAlternatives hBodies hLength hTails terminator).bind ?_
  rintro ⟨alternatives, next⟩ later hLater -
  have hShorter : later.length ≤ limit := Nat.le_trans hLater.length_le hLength
  refine (overlooks_readOtherwise hBodies hShorter next).bind ?_
  rintro ⟨otherwise, last⟩ _ - -
  dsimp only
  split
  · exact .pure trivial
  · exact .fault _

private theorem overlooks_readHolding (terminator : Token) :
    Overlooks bodies (readHolding terminator) queue fun _ _ => True := by
  unfold readHolding
  split
  · exact .closed hBodies hQueue _ _
  · exact .pure trivial

private theorem overlooks_readNegatedChoice :
    Overlooks bodies (readNegatedChoice find token) queue fun _ _ => True := by
  unfold readNegatedChoice readCondition
  split
  · exact .fault _
  · refine (Blind.bodyUntil hBodies hQueue _).bind fun failing rest hRest hPaused => ?_
    refine (Blind.close _ hPaused).bind fun terminator middle hMiddle _ => ?_
    have hLength : middle.length ≤ limit :=
      Nat.le_trans (hMiddle.trans hRest).length_le hQueue
    refine (overlooks_readHolding hBodies hLength terminator).bind
      fun holding _ _ _ => ?_
    exact Blind.ofExcept.bind fun condition _ _ _ => .pure trivial

private theorem overlooks_readBlock :
    Overlooks bodies (readBlock find token) queue fun _ _ => True := by
  unfold readBlock
  split
  · refine Blind.ahead ?_
    rw [superAhead_uncommented]
    refine (Blind.bodyUntil hBodies hQueue _).bind fun body rest _ hPaused => ?_
    exact (Blind.close _ hPaused).bind fun _ _ _ _ => .pure trivial
  · exact .fault _

private theorem overlooks_readInherit :
    Overlooks bodies (readInherit find token) queue fun _ _ => True := by
  unfold readInherit
  split
  · refine (Blind.bodyUntil hBodies hQueue _).bind fun nodes _ _ _ => ?_
    split
    · exact .fault _
    · exact .pure trivial
  · exact .fault _

private theorem overlooks_readFiltered :
    Overlooks bodies (readFiltered find token) queue fun _ _ => True := by
  unfold readFiltered
  split
  · refine (Blind.bodyUntil hBodies hQueue _).bind fun body rest _ hPaused => ?_
    refine (Blind.close _ hPaused).bind fun _ _ _ _ => ?_
    exact Blind.ofExcept.bind fun _ _ _ _ => .pure trivial
  · exact .fault _

omit hBodies hQueue

private theorem overlooks_readEmbed :
    Overlooks bodies (readEmbed find token) queue fun _ _ => True := by
  unfold readEmbed
  split
  · exact .pure trivial
  · exact .pure trivial
  · exact .fault _

private theorem overlooks_readNow :
    Overlooks bodies (readNow find token) queue fun _ _ => True := by
  unfold readNow
  split
  · exact .pure trivial
  · exact .pure trivial
  · exact .fault _

/-- The standard tags overlook comments. -/
private theorem overlooks_of_standard (find : FilterFinder) (token : Token)
    {word : String} {reader : TagReader} (hBodies : bodies.Blind limit)
    (hTails : ∀ stop, (bodies stop).Tails) (hQueue : queue.length ≤ limit)
    (hMem : (word, reader) ∈ Registry.standardTags) :
    Overlooks bodies (reader find token) queue fun _ _ => True := by
  simp only [Registry.standardTags, List.mem_cons, Prod.mk.injEq, List.not_mem_nil,
    or_false] at hMem
  obtain ⟨-, rfl⟩ | ⟨-, rfl⟩ | ⟨-, rfl⟩ | ⟨-, rfl⟩ | ⟨-, rfl⟩ | ⟨-, rfl⟩ | ⟨-, rfl⟩ |
    ⟨-, rfl⟩ := hMem
  · exact overlooks_readLoop hBodies hQueue
  · exact overlooks_readChoice hBodies hQueue hTails
  · exact overlooks_readNegatedChoice hBodies hQueue
  · exact overlooks_readNow
  · exact overlooks_readEmbed
  · exact overlooks_readInherit hBodies hQueue
  · exact overlooks_readBlock hBodies hQueue
  · exact overlooks_readFiltered hBodies hQueue

end Tag

/-! ## What bodies see -/

namespace Registry

variable {registry : Registry} {queue : List Token}

/-- A token stands for the same node, whatever comments follow. -/
private theorem blind_readNode (hStandard : registry.HasStandardTags) {limit : Nat}
    (hBodies : BodyParser.Blind registry.parseUntil limit)
    (hQueue : queue.length ≤ limit) (token : Token) :
    (registry.readNode registry.parseUntil token).Blind
      (registry.readNode registry.parseUntil token) queue
      fun _ _ => True := by
  cases token with
  | text contents => exact .idle fun _ => rfl
  | comment contents => exact .idle fun _ => rfl
  | output contents =>
      cases hChain : FilterChain.compile registry.findFilter contents with
      | ok chain => exact .idle fun _ => readNode_of_output hChain
      | error error => exact .failing fun _ => readNode_of_failed_output hChain
  | block contents =>
      cases hName : (Token.block contents).name? with
      | none => exact .idle fun _ => readNode_of_nameless hName
      | some name =>
          cases hFind : registry.findTag name with
          | error error => exact .failing fun _ => readNode_of_unknown_tag hName hFind
          | ok reader =>
              have hMem := hStandard.mem_of_findTag hFind
              obtain ⟨hSame, hLeft⟩ :=
                Tag.overlooks_of_standard registry.findFilter (.block contents)
                hBodies registry.tails_parseUntil hQueue hMem
              cases hRun : (reader registry.findFilter (.block contents)).run
                registry.parseUntil queue with
              | error error left =>
                  rw [hRun] at hSame
                  exact .of_error (readNode_of_failed_tag hName hFind hRun)
                    (readNode_of_failed_tag hName hFind hSame)
              | ok node rest =>
                  rw [hRun] at hSame
                  exact .of_ok (readNode_of_tag hName hFind hRun)
                    (readNode_of_tag hName hFind hSame) (hLeft node rest hRun).1 trivial

/-- A comment makes no difference to a body. -/
private theorem parseUntil_comment (stop : Token → Bool) (contents : String)
    (rest : List Token) :
    registry.parseUntil stop (.comment contents :: rest) =
      registry.parseUntil stop rest := by
  rw [registry.parseUntil_cons rfl]
  show (registry.parseUntil stop >>= fun nodes => pure ([] ++ nodes)) rest = _
  simp only [Bind.bind, EStateM.bind]
  cases registry.parseUntil stop rest <;> rfl

/-- Bodies of limited length are parsed the same without comments. A comment in front is
dropped; behind any other token the queue is shorter. -/
private theorem blind_parseUntil (hStandard : registry.HasStandardTags) (limit : Nat) :
    BodyParser.Blind registry.parseUntil limit := by
  have hNil : ∀ stop, (registry.parseUntil stop).Blind (registry.parseUntil stop) []
      fun _ rest => Paused rest := fun stop =>
    .of_ok (registry.parseUntil_nil stop) (registry.parseUntil_nil stop) List.suffix_rfl
      fun token hToken => nomatch hToken
  induction limit with
  | zero =>
      intro stop queue hQueue
      rw [List.length_eq_zero_iff.mp (Nat.le_zero.mp hQueue)]
      exact hNil stop
  | succ limit ih =>
      intro stop queue hQueue
      cases queue with
      | nil => exact hNil stop
      | cons token rest =>
          have hRest : rest.length ≤ limit := Nat.le_of_succ_le_succ hQueue
          cases hComment : token.isComment with
          | true =>
              obtain ⟨hSame, hLeft⟩ := ih stop rest hRest
              rw [Token.eq_comment hComment]
              refine ⟨?_, fun nodes left hOk => ?_⟩
              · rw [uncommented_comment, parseUntil_comment]
                exact hSame
              rw [parseUntil_comment] at hOk
              obtain ⟨hSuffix, hPaused⟩ := hLeft nodes left hOk
              exact ⟨hSuffix.trans (List.suffix_cons _ rest), hPaused⟩
          | false =>
              cases hEnds : ends stop token with
              | true =>
                  have hEnd := registry.parseUntil_of_ends hEnds rest
                  refine .of_ok hEnd ?_ List.suffix_rfl ?_
                  · rw [uncommented_cons hComment]
                    exact registry.parseUntil_of_ends hEnds _
                  · rintro _ ⟨⟩
                    exact hComment
              | false =>
                  obtain ⟨hNodeSame, hNodeLeft⟩ :=
                    blind_readNode hStandard ih hRest token
                  cases hNode : registry.readNode registry.parseUntil token rest with
                  | error error left =>
                      rw [hNode] at hNodeSame
                      refine .of_error (parseUntil_of_failed_node hEnds hNode) ?_
                      rw [uncommented_cons hComment]
                      exact parseUntil_of_failed_node hEnds hNodeSame
                  | ok node middle =>
                      rw [hNode] at hNodeSame
                      have hMiddle := (hNodeLeft node middle hNode).1
                      obtain ⟨hMoreSame, hMoreLeft⟩ :=
                        ih stop middle (Nat.le_trans hMiddle.length_le hRest)
                      cases hMore : registry.parseUntil stop middle with
                      | error error left =>
                          rw [hMore] at hMoreSame
                          refine .of_error (parseUntil_of_failed_rest hEnds
                            hNode hMore) ?_
                          rw [uncommented_cons hComment]
                          exact parseUntil_of_failed_rest hEnds hNodeSame hMoreSame
                      | ok nodes left =>
                          rw [hMore] at hMoreSame
                          obtain ⟨hLeft, hPaused⟩ := hMoreLeft nodes left hMore
                          have hSuffix :=
                            (hLeft.trans hMiddle).trans (List.suffix_cons token rest)
                          refine .of_ok (parseUntil_of_parts hEnds hNode hMore) ?_
                            hSuffix hPaused
                          rw [uncommented_cons hComment]
                          exact parseUntil_of_parts hEnds hNodeSame hMoreSame

/-- Comments are inert. Without them, wherever they stand and whatever they contain, a
template has the same nodes or fails with the same error, and what is left after an
error are the same tokens but for the comments. -/
theorem parseAll_uncommented (hStandard : registry.HasStandardTags)
    (tokens : List Token) :
    registry.parseAll (uncommented tokens) =
      withoutComments (registry.parseAll tokens) :=
  (blind_parseUntil hStandard tokens.length _ tokens (Nat.le_refl _)).1

/-- Comments that read like the end of the block that they stand in, and like a mention
of what it replaces. -/
theorem parseAll_uncommented_of_block :
    let tokens : List Token :=
      [.comment "", .block "block title", .comment "block.super", .text "Home",
        .comment "endblock", .block "endblock"]
    Registry.parseAll [Extension.standard] tokens =
      .ok [.block ⟨"title", false, [.text "Home"]⟩] [] ∧
      Registry.parseAll [Extension.standard] (uncommented tokens) =
        .ok [.block ⟨"title", false, [.text "Home"]⟩] [] := by
  intro tokens
  have hTokens : Registry.parseAll [Extension.standard] tokens =
      .ok [.block ⟨"title", false, [.text "Home"]⟩] [] := rfl
  have hSame : Registry.parseAll [Extension.standard] (uncommented tokens) = _ :=
    parseAll_uncommented (fun _ => rfl) tokens
  rw [hTokens] at hSame
  exact ⟨hTokens, hSame⟩

end Registry

end TextTemplate
