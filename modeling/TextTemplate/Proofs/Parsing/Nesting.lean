import Mathlib
import TextTemplate.Proofs.Parsing.Readers

/-!
# What parses is nested

Every tag of the standard extension that encloses tokens takes them off the queue
together with a token that ends it. This module proves that tokens that parse are
therefore nested, and says where the nesting is not what it should be: a loop and a
negated choice take a token for their end that bears the name of their divider, `empty`
or `else`, but says more. Such a tag is over although nothing closes it. A choice does
not accept such a token. Where no divider says more than its word, only properly nested
tokens parse.

Each reader is asked for what it encloses, with parsers of bodies of which it is only
known that they take nested tokens off shorter queues. The length of the queue then
carries the induction.

## Main results

* `Tag.takes_of_readLoop` and its like — what a tag takes off the queue.
* `Tag.superAhead_eq_any` — looking ahead in the queue sees the body of a block.
* `Registry.nests_parseUntil` — a body takes nested tokens.
* `Registry.parseAll_nests` — what parses is nested, and a missing closing token is
  an error.
* `Registry.parseAll_of_cut_loop` — a loop that ends without a token that closes it.
-/

namespace TextTemplate

open Reading

namespace Enclosure

/-- The word that may divide the tag once. When a token says more than this word, the
tag ends there. -/
def divider? : Enclosure → Option String
  | loop => some "empty"
  | negatedChoice => some "else"
  | _ => none

/-- A token that cuts the tag short: it bears the name of a divider and says more. -/
def CutBy (tag : Enclosure) (token : Token) : Prop :=
  ∃ word, tag.divider? = some word ∧ token.word? = some word ∧ token.contents ≠ word

/-- A token at which the tag ends when it is read. -/
def EndsAt (tag : Enclosure) (token : Token) : Prop :=
  tag.Closes token ∨ tag.CutBy token

/-- A token that cuts a tag short neither opens nor closes one, and blocks are not
cut short. -/
theorem EndsAt.closes_or_idle {tag : Enclosure} {token : Token} (h : tag.EndsAt token) :
    tag.Closes token ∨ tag ≠ .block ∧ token.word? ∈ Token.idleWords := by
  rcases h with hCloses | ⟨word, hDivider, hWord, -⟩
  · exact .inl hCloses
  · refine .inr ?_
    rw [hWord]
    cases tag <;> cases hDivider <;> decide

/-- What the tag encloses, as it is read, stands at the front of a queue and leaves
the rest. -/
def Takes (tag : Enclosure) (queue rest : List Token) : Prop :=
  ∃ inner, queue = inner ++ rest ∧ Encloses EndsAt tag inner

end Enclosure

/-- The parsers of bodies take nested tokens off queues of limited length. -/
def BodyParser.Nests (bodies : BodyParser) (limit : Nat) : Prop :=
  ∀ ⦃stop queue nodes rest⦄, queue.length ≤ limit → bodies stop queue = .ok nodes rest →
    (∀ last ∈ rest.head?, Registry.ends stop last = true) ∧
      ∃ taken, queue = taken ++ rest ∧ Nested Enclosure.EndsAt taken

/-! ## What tags take -/

namespace Tag

variable {find : FilterFinder} {token : Token} {bodies : BodyParser}
  {queue rest : List Token}
  {node : Node} {limit : Nat} {tag : Enclosure}

/-- A body and the token that closes the tag. -/
private theorem takes_of_closed (hBodies : bodies.Nests limit)
    (hQueue : queue.length ≤ limit) {body : List Node} {last : Token}
    (hBody : bodies (Token.isNamed [tag.closer]) queue = .ok body (last :: rest)) :
    tag.Takes queue rest := by
  obtain ⟨hStops, taken, rfl, hNested⟩ := hBodies hQueue hBody
  obtain ⟨word, hMem, hWord⟩ := Registry.ends_isNamed_iff.mp (hStops last rfl)
  rw [List.mem_singleton.mp hMem] at hWord
  exact ⟨taken ++ [last], by simp, .whole hNested (.inl hWord)⟩

/-- A body that may be divided once. -/
private theorem takes_of_divided (hBodies : bodies.Nests limit)
    (hQueue : queue.length ≤ limit) {word : String} {body second : List Node}
    {terminator : Token} {middle : List Token} (hDivider : tag.divider? = some word)
    (hDivides : tag.Divides [some word])
    (hSingle : (Token.block word).word? = some word)
    (hBody : bodies (Token.isNamed [tag.closer, word]) queue =
      .ok body (terminator :: middle))
    (hSecond : (terminator.contents = word ∧
        ∃ last, bodies (Token.isNamed [tag.closer]) middle =
          .ok second (last :: rest)) ∨
      (terminator.contents ≠ word ∧ second = [] ∧ middle = rest)) :
    tag.Takes queue rest := by
  obtain ⟨hStops, taken, rfl, hNested⟩ := hBodies hQueue hBody
  have hTerminator := hStops terminator rfl
  rw [List.length_append, List.length_cons] at hQueue
  obtain ⟨hContents, last, hLast⟩ | ⟨hContents, -, rfl⟩ := hSecond
  · obtain ⟨hLastStops, behind, rfl, hBehind⟩ := hBodies (by omega) hLast
    obtain ⟨closing, hClosingMem, hClosing⟩ :=
      Registry.ends_isNamed_iff.mp (hLastStops last rfl)
    rw [List.mem_singleton.mp hClosingMem] at hClosing
    have hWord : terminator.word? = some word := by
      rw [Registry.eq_block_of_ends hTerminator, hContents]
      exact hSingle
    exact ⟨_, by simp, .intro hNested (.cons hWord hBehind .nil) hDivides
      (.inl hClosing)⟩
  · have hEnds : tag.EndsAt terminator := by
      obtain ⟨found, hMem, hFound⟩ := Registry.ends_isNamed_iff.mp hTerminator
      simp only [List.mem_cons, List.not_mem_nil, or_false] at hMem
      cases hMem with
      | inl hCloser => exact .inl (hFound.trans (congrArg some hCloser))
      | inr hWord =>
          exact .inr ⟨word, hDivider, hFound.trans (congrArg some hWord), hContents⟩
    exact ⟨taken ++ [terminator], by simp, .whole hNested hEnds⟩

theorem takes_of_readLoop (hBodies : bodies.Nests limit) (hQueue : queue.length ≤ limit)
    (h : (readLoop find token).run bodies queue = .ok node rest) :
    Enclosure.loop.Takes queue rest := by
  obtain ⟨header, body, terminator, middle, empty, source, condition, -, hBody,
    hEmpty, -⟩ :=
    run_readLoop_eq_ok_iff.mp h
  exact takes_of_divided hBodies hQueue rfl (.inr rfl) (by decide) hBody
    (run_readEmpty_eq_ok_iff.mp hEmpty)

private theorem takes_of_readNegatedChoice (hBodies : bodies.Nests limit)
    (hQueue : queue.length ≤ limit)
    (h : (readNegatedChoice find token).run bodies queue = .ok node rest) :
    Enclosure.negatedChoice.Takes queue rest := by
  obtain ⟨failing, terminator, middle, holding, condition, -, hFailing, hHolding, -⟩ :=
    run_readNegatedChoice_eq_ok_iff.mp h
  exact takes_of_divided hBodies hQueue rfl (.inr rfl) (by decide) hFailing
    (run_readHolding_eq_ok_iff.mp hHolding)

/-- The next token and those behind it are all tokens. -/
theorem head?_append_tail (tokens : List Token) :
    tokens.head?.toList ++ tokens.tail = tokens := by
  cases tokens <;> rfl

/-- The `elif` branches are sections, and what stands behind them ends a branch as
well. -/
theorem divided_of_readAlternatives (hBodies : bodies.Nests limit) {rounds : List Token}
    {terminator last : Option Token} {branches : List (Branch Node)}
    (hQueue : queue.length ≤ limit)
    (hStart : ∀ token ∈ terminator,
      Registry.ends (Token.isNamed ["endif", "elif", "else"]) token = true)
    (h : (readAlternatives find rounds terminator).run bodies queue =
      .ok (branches, last) rest) :
    (∀ token ∈ last, Registry.ends (Token.isNamed ["endif", "elif", "else"])
      token = true) ∧
      ∃ divided count, terminator.toList ++ queue = divided ++ (last.toList ++ rest) ∧
        Divided Enclosure.EndsAt (List.replicate count (some "elif")) divided := by
  induction rounds generalizing terminator queue branches with
  | nil =>
      obtain ⟨-, rfl, rfl⟩ := run_readAlternatives_nil.mp h
      exact ⟨hStart, [], 0, rfl, .nil⟩
  | cons round rounds ih =>
      by_cases hElif : ∃ token, terminator = some token ∧ token.isNamed ["elif"] = true
      · obtain ⟨token, rfl, hNamed⟩ := hElif
        obtain ⟨branch, middle, more, hBranch, hMore, rfl⟩ :=
          (run_readAlternatives_of_elif hNamed).mp h
        obtain ⟨condition, body, -, hBody, rfl⟩ := run_readBranch_eq_ok_iff.mp hBranch
        obtain ⟨hStops, taken, rfl, hNested⟩ := hBodies hQueue hBody
        rw [List.length_append] at hQueue
        obtain ⟨hEnds, divided, count, hTokens, hDivided⟩ :=
          ih (by rw [List.length_tail]; omega) hStops hMore
        have hWord : token.word? = some "elif" := by
          obtain ⟨word, -, hWord⟩ := Registry.ends_isNamed_iff.mp (hStart token rfl)
          rw [Token.isNamed_of_word? hWord, decide_eq_true_eq] at hNamed
          rw [hWord, List.mem_singleton.mp hNamed]
        refine ⟨hEnds, token :: (taken ++ divided), count + 1, ?_,
          .cons hWord hNested hDivided⟩
        rw [List.cons_append, List.append_assoc, ← hTokens, head?_append_tail]
        rfl
      · have hNot : ∀ token, terminator = some token →
            token.isNamed ["elif"] = false := by
          intro token hToken
          cases hNamed : token.isNamed ["elif"] with
          | true => exact absurd ⟨token, hToken, hNamed⟩ hElif
          | false => rfl
        obtain ⟨-, rfl, rfl⟩ := (run_readAlternatives_of_not_elif hNot).mp h
        exact ⟨hStart, [], 0, rfl, .nil⟩

/-- The `else` branch is at most one section, and behind it or in its place comes the
closing token. -/
private theorem divided_of_readOtherwise (hBodies : bodies.Nests limit)
    {terminator : Option Token} {closing : Token} {branches : List (Branch Node)}
    (hQueue : queue.length ≤ limit)
    (hStart : ∀ token ∈ terminator,
      Registry.ends (Token.isNamed ["endif", "elif", "else"]) token = true)
    (hContents : closing.contents = "endif")
    (h : (readOtherwise terminator).run bodies queue =
      .ok (branches, some closing) rest) :
    closing.word? = some "endif" ∧
      ∃ divided words, terminator.toList ++ queue = divided ++ closing :: rest ∧
        (words = [] ∨ words = [some "else"]) ∧
          Divided Enclosure.EndsAt words divided := by
  obtain ⟨hElse, body, middle, hBody, -, hClosing, rfl⟩ | ⟨-, -, rfl, rfl⟩ :=
    run_readOtherwise_eq_ok_iff.mp h
  · obtain ⟨hStops, taken, rfl, hNested⟩ := hBodies hQueue hBody
    cases terminator with
    | none => cases hElse
    | some divider =>
        cases middle with
        | nil => cases hClosing
        | cons last rest =>
            cases hClosing
            obtain ⟨word, hMem, hWord⟩ :=
              Registry.ends_isNamed_iff.mp (hStops closing rfl)
            have hDivider : divider.word? = some "else" := by
              rw [Registry.eq_block_of_ends (hStart divider rfl),
                of_decide_eq_true hElse]
              decide
            refine ⟨List.mem_singleton.mp hMem ▸ hWord, _, [some "else"], ?_, .inr rfl,
              .cons hDivider hNested .nil⟩
            simp
  · refine ⟨?_, [], [], rfl, .inl rfl, .nil⟩
    rw [Registry.eq_block_of_ends (hStart closing rfl), hContents]
    decide

private theorem takes_of_readChoice (hBodies : bodies.Nests limit)
    (hQueue : queue.length ≤ limit)
    (h : (readChoice find token).run bodies queue = .ok node rest) :
    Enclosure.choice.Takes queue rest := by
  obtain ⟨first, middle, alternatives, next, later, otherwise, closing, hFirst,
    hAlternatives, hOtherwise, hContents, -⟩ := run_readChoice_eq_ok_iff.mp h
  obtain ⟨condition, body, -, hBody, rfl⟩ := run_readBranch_eq_ok_iff.mp hFirst
  obtain ⟨hStops, taken, rfl, hNested⟩ := hBodies hQueue hBody
  rw [List.length_append] at hQueue
  obtain ⟨hNext, elifs, count, hMiddle, hElifs⟩ :=
    divided_of_readAlternatives hBodies (by rw [List.length_tail]; omega) hStops
      hAlternatives
  rw [head?_append_tail] at hMiddle
  subst hMiddle
  simp only [List.length_append] at hQueue
  obtain ⟨hClosing, elses, words, hLater, hWords, hElses⟩ :=
    divided_of_readOtherwise hBodies (by omega) hNext hContents hOtherwise
  refine ⟨_, ?_, .intro hNested (hElifs.append hElses)
    (Enclosure.divides_choice count hWords) (.inl hClosing)⟩
  rw [hLater]
  simp

private theorem takes_of_readFiltered (hBodies : bodies.Nests limit)
    (hQueue : queue.length ≤ limit)
    (h : (readFiltered find token).run bodies queue = .ok node rest) :
    Enclosure.filtered.Takes queue rest := by
  obtain ⟨name, filters, body, last, chain, -, hBody, -⟩ :=
    run_readFiltered_eq_ok_iff.mp h
  exact takes_of_closed hBodies hQueue hBody

private theorem takes_of_readBlock (hBodies : bodies.Nests limit)
    (hQueue : queue.length ≤ limit)
    (h : (readBlock find token).run bodies queue = .ok node rest) :
    Enclosure.block.Takes queue rest := by
  obtain ⟨tag, name, body, last, -, hBody, -⟩ := run_readBlock_eq_ok_iff.mp h
  exact takes_of_closed hBodies hQueue hBody

/-- Looking ahead sees the tokens that the parser takes for the body of a block, and
stops at the one that ends it. What stands behind it does not matter. -/
theorem superAhead_eq_any (hBodies : bodies.Nests limit) (hQueue : queue.length ≤ limit)
    {body : List Node} {closing : Token}
    (h : bodies (Token.isNamed ["endblock"]) queue = .ok body (closing :: rest)) :
    ∃ inside, queue = inside ++ closing :: rest ∧ closing.word? = some "endblock" ∧
      ∀ more, superAhead 0 (queue ++ more) = inside.any mentionsSuper := by
  obtain ⟨hStops, inside, rfl, hNested⟩ := hBodies hQueue h
  obtain ⟨word, hMem, hWord⟩ := Registry.ends_isNamed_iff.mp (hStops closing rfl)
  rw [List.mem_singleton.mp hMem] at hWord
  refine ⟨inside, rfl, hWord, fun more => ?_⟩
  rw [List.append_assoc, hNested.superAhead_append (fun hEnds => hEnds.closes_or_idle),
    List.cons_append, superAhead_closing hWord, Bool.or_false]

end Tag

/-! ## What bodies take -/

namespace Registry

variable {registry : Registry} {bodies : BodyParser} {limit : Nat}

/-- A token and what is read behind it are nested, whatever nested tokens follow. -/
private theorem nested_of_readNode (hStandard : registry.HasStandardTags)
    (hBodies : bodies.Nests limit) {token : Token} {queue rest : List Token}
    {node : Option Node} (hQueue : queue.length ≤ limit)
    (h : registry.readNode bodies token queue = .ok node rest) :
    ∃ inner, queue = inner ++ rest ∧
      ∀ more, Nested Enclosure.EndsAt more →
        Nested Enclosure.EndsAt (token :: (inner ++ more)) := by
  cases hWord : token.word? with
  | none =>
      have hAlone : token.StandsAlone := by
        rw [Token.StandsAlone, hWord]
        exact List.mem_cons_self
      exact ⟨[], queue_of_readNode hWord h, fun more hMore => .alone hAlone hMore⟩
  | some word =>
      obtain ⟨reader, found, hFind, hRun, -⟩ := (readNode_eq_ok_iff hWord).mp h
      have hMem := hStandard.mem_of_findTag hFind
      have hEncloses : ∀ tag : Enclosure, word = tag.word →
          tag.Takes queue rest → ∃ inner, queue = inner ++ rest ∧
            ∀ more, Nested Enclosure.EndsAt more →
            Nested Enclosure.EndsAt (token :: (inner ++ more)) := by
        rintro tag rfl ⟨inner, hInner, hEnclosed⟩
        exact ⟨inner, hInner, fun more hMore => hEnclosed.nested hWord hMore⟩
      have hAlone : some word ∈ Token.loneWords → token.StandsAlone := by
        intro hMem
        rw [Token.StandsAlone, hWord]
        exact hMem
      simp only [standardTags, List.mem_cons, Prod.mk.injEq, List.not_mem_nil, or_false]
        at hMem
      obtain ⟨rfl, rfl⟩ | ⟨rfl, rfl⟩ | ⟨rfl, rfl⟩ | ⟨rfl, rfl⟩ | ⟨rfl, rfl⟩ |
        ⟨rfl, rfl⟩ | ⟨rfl, rfl⟩ | ⟨rfl, rfl⟩ := hMem
      · exact hEncloses .loop rfl (Tag.takes_of_readLoop hBodies hQueue hRun)
      · exact hEncloses .choice rfl (Tag.takes_of_readChoice hBodies hQueue hRun)
      · exact hEncloses .negatedChoice rfl
          (Tag.takes_of_readNegatedChoice hBodies hQueue hRun)
      · obtain ⟨_, _, -, hRest, -⟩ := Tag.run_readNow_eq_ok_iff.mp hRun
        exact ⟨[], hRest, fun more hMore => .alone (hAlone (by decide)) hMore⟩
      · obtain ⟨_, _, _, -, hRest, -⟩ := Tag.run_readEmbed_eq_ok_iff.mp hRun
        exact ⟨[], hRest, fun more hMore => .alone (hAlone (by decide)) hMore⟩
      · obtain ⟨_, _, nodes, -, hNodes, -⟩ := Tag.run_readInherit_eq_ok_iff.mp hRun
        obtain ⟨-, inner, hInner, hNested⟩ := hBodies hQueue hNodes
        exact ⟨inner, hInner, fun more hMore => .alone (hAlone (by decide))
          (hNested.append hMore)⟩
      · exact hEncloses .block rfl (Tag.takes_of_readBlock hBodies hQueue hRun)
      · exact hEncloses .filtered rfl (Tag.takes_of_readFiltered hBodies hQueue hRun)

/-- A body takes nested tokens and leaves the token that ends it in front. -/
theorem nests_parseUntil (hStandard : registry.HasStandardTags) (limit : Nat) :
    BodyParser.Nests registry.parseUntil limit := by
  have hNil : ∀ ⦃stop nodes rest⦄, registry.parseUntil stop [] = .ok nodes rest →
      (∀ last ∈ rest.head?, ends stop last = true) ∧
        ∃ taken, [] = taken ++ rest ∧ Nested Enclosure.EndsAt taken := by
    intro stop nodes rest h
    cases h
    exact ⟨fun last hLast => absurd hLast (Option.not_mem_none last), [], rfl, .nil⟩
  induction limit with
  | zero =>
      intro stop queue nodes rest hQueue h
      cases List.length_eq_zero_iff.mp (Nat.le_zero.mp hQueue)
      exact hNil h
  | succ limit ih =>
      intro stop queue nodes rest hQueue h
      cases queue with
      | nil => exact hNil h
      | cons token queue =>
          have hShorter : queue.length ≤ limit := Nat.le_of_succ_le_succ hQueue
          cases hEnds : ends stop token with
          | true =>
              rw [registry.parseUntil_of_ends hEnds] at h
              cases h
              refine ⟨fun last hLast => ?_, [], rfl, .nil⟩
              cases hLast
              exact hEnds
          | false =>
              rw [registry.parseUntil_cons hEnds] at h
              obtain ⟨node, middle, hNode, hMore⟩ := Parser.bind_eq_ok_iff.mp h
              obtain ⟨others, last, hOthers, hEnd⟩ := Parser.bind_eq_ok_iff.mp hMore
              cases hEnd
              obtain ⟨inner, rfl, hInner⟩ :=
                nested_of_readNode hStandard ih hShorter hNode
              rw [List.length_append] at hShorter
              obtain ⟨hStops, taken, rfl, hTaken⟩ := ih (by omega) hOthers
              exact ⟨hStops, token :: (inner ++ taken), by simp, hInner taken hTaken⟩

/-- Whatever parses is nested, if tags may end where a divider says more than its word.
Where no divider does, what parses is properly nested, and a tag that lacks its closing
token is an error. -/
theorem parseAll_nests (hStandard : registry.HasStandardTags) (tokens : List Token) :
    (∀ nodes rest, registry.parseAll tokens = .ok nodes rest →
      Nested Enclosure.EndsAt tokens) ∧
      ((∀ token ∈ tokens, ∀ tag : Enclosure, ¬ tag.CutBy token) →
        (∀ nodes rest, registry.parseAll tokens = .ok nodes rest →
          Nested Enclosure.Closes tokens) ∧
          ∀ tag : Enclosure, tag.countOpenings tokens ≠ tag.countClosings tokens →
            ∃ error rest, registry.parseAll tokens = .error error rest) := by
  have hNested : ∀ nodes rest, registry.parseAll tokens = .ok nodes rest →
      Nested Enclosure.EndsAt tokens := by
    intro nodes rest h
    obtain ⟨-, taken, hTokens, hTaken⟩ :=
      nests_parseUntil hStandard tokens.length (Nat.le_refl _) h
    rw [hTokens, registry.parseAll_leaves_nil h, List.append_nil]
    exact hTaken
  refine ⟨hNested, fun hWhole => ?_⟩
  have hStrict : ∀ nodes rest, registry.parseAll tokens = .ok nodes rest →
      Nested Enclosure.Closes tokens := fun nodes rest h =>
    (hNested nodes rest h).imp fun token hMem tag hEnds => hEnds.resolve_right
      (hWhole token hMem tag)
  refine ⟨hStrict, fun tag hCounts => ?_⟩
  cases hParse : registry.parseAll tokens with
  | error error rest => exact ⟨error, rest, rfl⟩
  | ok nodes rest =>
      exact absurd ((hStrict nodes rest hParse).countOpenings_eq tag) hCounts

/-- A loop whose second section nothing closes is an error. -/
theorem parseAll_nests_of_unclosed_loop :
    ∃ error rest, Registry.parseAll [Extension.standard]
      [.block "for x in y", .block "empty", .text "none"] = .error error rest := by
  have hWhole : ∀ token ∈ [Token.block "for x in y", .block "empty", .text "none"],
      ∀ tag : Enclosure, ¬ tag.CutBy token := by
    rintro token hMem tag ⟨word, hDivider, hWord, hContents⟩
    simp only [List.mem_cons, List.not_mem_nil, or_false] at hMem
    obtain rfl | rfl | rfl := hMem
    · cases tag <;> cases hDivider <;> exact absurd hWord (by decide)
    · cases tag <;> cases hDivider <;>
        first | exact hContents rfl | exact absurd hWord (by decide)
    · cases hWord
  exact ((parseAll_nests (fun name => rfl) _).2 hWhole).2 .loop (by decide)

/-- A loop that is divided by a token that says more than `empty` parses although
nothing closes it. -/
theorem parseAll_of_cut_loop :
    Registry.parseAll [Extension.standard] [.block "for x in y", .block "empty z"] =
      .ok [.loop ["x"] (.filtered ⟨"y", Variable.ofString "y", []⟩) none [] []] [] ∧
      ¬ Nested Enclosure.Closes [.block "for x in y", .block "empty z"] := by
  constructor
  · cbv
  · intro hNested
    exact absurd (hNested.countOpenings_eq .loop) (by decide)

end Registry

end TextTemplate
