import TextTemplate.Proofs.Node.Parts
import TextTemplate.Proofs.Parsing.Readers
import TextTemplate.Proofs.Parsing.Extending
import TextTemplate.Proofs.Inheritance.Waiting

/-!
# Where parents are named

The tag that names a parent reads the rest of its template. So it comes last, and what
it reads is a template of its own that names no parent again. Inside another tag it
cannot stand either: that tag would wait in vain for the token that closes it. Of a
template that parses with the standard tags this leaves two kinds: nodes none of which
names a parent, however deep one looks, and such nodes in front of a single one that
does, whose blocks name none.

The induction is on the length of the queue, for parsers of bodies that take no more
than there is. A body behind which something is left names no parent, and this is what
every enclosing tag needs of its own.

## Main results

* `Registry.places_parseUntil` — the induction.
* `Environment.placed_of_parse` — a template names a parent at its end or nowhere.
-/

namespace TextTemplate

open Reading

namespace Node

/-- Neither a tag of the application's own nor the name of a parent. -/
def Inner (node : Node) : Prop :=
  node.isCustom = false ∧ Tag.isInherit node = false

/-- Nodes of which only the last one may name a parent, with blocks that name none. -/
def Placed (nodes : List Node) : Prop :=
  All Inner nodes ∨ ∃ before parent blocks, nodes = before ++ [.inherit parent blocks] ∧
    All Inner before ∧ ∀ part ∈ Block.partsOf blocks, Inner part

/-- Nodes of which none is the name of a parent name none inside either. -/
theorem Placed.inner {nodes : List Node} (h : Placed nodes)
    (hNone : nodes.any Tag.isInherit = false) :
    All Inner nodes := by
  rcases h with hInner | ⟨before, parent, blocks, rfl, -, -⟩
  · exact hInner
  · rw [List.any_append] at hNone
    simp [Tag.isInherit] at hNone

theorem Placed.append {first second : List Node} (hFirst : All Inner first)
    (hSecond : Placed second) :
    Placed (first ++ second) := by
  rcases hSecond with hInner | ⟨before, parent, blocks, rfl, hBefore, hBlocks⟩
  · exact .inl (all_append.mpr ⟨hFirst, hInner⟩)
  · exact .inr ⟨first ++ before, parent, blocks, (List.append_assoc _ _ _).symm,
      all_append.mpr ⟨hFirst, hBefore⟩, hBlocks⟩

/-- No tag of the application's own is placed anywhere. -/
theorem Placed.builtIn {nodes : List Node} (h : Placed nodes) :
    BuiltIn (partsOf nodes) := by
  rcases h with hInner | ⟨before, parent, blocks, rfl, hBefore, hBlocks⟩
  · exact fun part hPart => (hInner part hPart).1
  · intro part hPart
    obtain ⟨node, hNode, hInside⟩ := mem_partsOf_iff.mp hPart
    rcases List.mem_append.mp hNode with hMem | hMem
    · exact (hBefore part (mem_partsOf_iff.mpr ⟨node, hMem, hInside⟩)).1
    · rw [List.mem_singleton.mp hMem] at hInside
      rcases List.mem_cons.mp hInside with rfl | hBlock
      · rfl
      · exact (hBlocks part hBlock).1

end Node

/-- The parsers of bodies take what is placed off queues of limited length. Where
something is left, no parent is named, and nothing is left if no token ends the body. -/
def BodyParser.Places (bodies : BodyParser) (limit : Nat) : Prop :=
  ∀ ⦃stop queue nodes rest⦄, queue.length ≤ limit → bodies stop queue = .ok nodes rest →
    rest.length ≤ queue.length ∧ Node.Placed nodes ∧
      (rest ≠ [] → Node.All Node.Inner nodes) ∧
      ((∀ token, Registry.ends stop token = false) → rest = [])

/-! ## What tags make of their bodies -/

namespace Tag

variable {find : FilterFinder} {token : Token} {bodies : BodyParser}
  {queue rest : List Token}
  {node : Node} {limit : Nat}

/-- A body with something behind it. -/
private theorem inner_of_body (hBodies : bodies.Places limit)
    (hQueue : queue.length ≤ limit) {stop : Token → Bool} {body : List Node}
    {last : Token} (h : bodies stop queue = .ok body (last :: rest)) :
    Node.All Node.Inner body ∧ rest.length ≤ queue.length := by
  obtain ⟨hLength, -, hInner, -⟩ := hBodies hQueue h
  rw [List.length_cons] at hLength
  exact ⟨hInner (List.cons_ne_nil _ _), by omega⟩

/-- A body and perhaps another one behind a divider. -/
private theorem inner_of_divided (hBodies : bodies.Places limit)
    (hQueue : queue.length ≤ limit) {word closer : String} {stop : Token → Bool}
    {body second : List Node} {terminator : Token} {middle : List Token}
    (hBody : bodies stop queue = .ok body (terminator :: middle))
    (hSecond : (terminator.contents = word ∧
        ∃ last, bodies (Token.isNamed [closer]) middle = .ok second (last :: rest)) ∨
      (terminator.contents ≠ word ∧ second = [] ∧ middle = rest)) :
    Node.All Node.Inner body ∧ Node.All Node.Inner second := by
  obtain ⟨hInner, hMiddle⟩ := inner_of_body hBodies hQueue hBody
  obtain ⟨-, last, hLast⟩ | ⟨-, rfl, -⟩ := hSecond
  · exact ⟨hInner, (inner_of_body hBodies (by omega) hLast).1⟩
  · exact ⟨hInner, Node.all_nil⟩

/-- A choice names no parent if none of its branches does. -/
private theorem inner_choice {branches : List (Branch Node)}
    (h : ∀ branch ∈ branches, Node.All Node.Inner branch.body) :
    Node.All Node.Inner [.choice branches] := by
  intro part hPart
  rw [Node.partsOf_singleton] at hPart
  rcases List.mem_cons.mp hPart with rfl | hInside
  · exact ⟨rfl, rfl⟩
  · obtain ⟨branch, hBranch, hBody⟩ := Branch.mem_partsOf_iff.mp hInside
    exact h branch hBranch part hBody

private theorem inner_of_readLoop (hBodies : bodies.Places limit)
    (hQueue : queue.length ≤ limit)
    (h : (readLoop find token).run bodies queue = .ok node rest) :
    Node.All Node.Inner [node] := by
  obtain ⟨header, body, terminator, middle, empty, source, condition, -, hBody, hEmpty,
    -, -, rfl⟩ :=
    run_readLoop_eq_ok_iff.mp h
  obtain ⟨hInner, hOther⟩ :=
    inner_of_divided hBodies hQueue hBody (run_readEmpty_eq_ok_iff.mp hEmpty)
  intro part hPart
  rw [Node.partsOf_singleton] at hPart
  rcases List.mem_cons.mp hPart with rfl | hInside
  · exact ⟨rfl, rfl⟩
  · exact (List.mem_append.mp hInside).elim (hInner part) (hOther part)

private theorem inner_of_readNegatedChoice (hBodies : bodies.Places limit)
    (hQueue : queue.length ≤ limit)
    (h : (readNegatedChoice find token).run bodies queue = .ok node rest) :
    Node.All Node.Inner [node] := by
  obtain ⟨failing, terminator, middle, holding, condition, -, hFailing,
    hHolding, -, rfl⟩ :=
    run_readNegatedChoice_eq_ok_iff.mp h
  obtain ⟨hInner, hOther⟩ :=
    inner_of_divided hBodies hQueue hFailing (run_readHolding_eq_ok_iff.mp hHolding)
  refine inner_choice fun branch hBranch => ?_
  simp only [List.mem_cons, List.not_mem_nil, or_false] at hBranch
  rcases hBranch with rfl | rfl
  · exact hOther
  · exact hInner

/-- If a token ends the `elif` branches, one stands in front of each of them and
behind it. -/
private theorem inner_of_readAlternatives (hBodies : bodies.Places limit)
    {rounds : List Token} {terminator last : Option Token}
    {branches : List (Branch Node)} (hQueue : queue.length ≤ limit)
    (h : (readAlternatives find rounds terminator).run bodies queue =
      .ok (branches, last) rest) :
    rest.length ≤ queue.length ∧
      (last ≠ none → terminator ≠ none ∧ ∀ branch ∈ branches,
        Node.All Node.Inner branch.body) := by
  induction rounds generalizing terminator queue branches with
  | nil =>
      obtain ⟨rfl, rfl, rfl⟩ := run_readAlternatives_nil.mp h
      exact ⟨Nat.le_refl _, fun hLast => ⟨hLast,
        fun _ hBranch => absurd hBranch List.not_mem_nil⟩⟩
  | cons round rounds ih =>
      by_cases hElif : ∃ token, terminator = some token ∧ token.isNamed ["elif"] = true
      · obtain ⟨token, rfl, hNamed⟩ := hElif
        obtain ⟨branch, middle, more, hBranch, hMore, rfl⟩ :=
          (run_readAlternatives_of_elif hNamed).mp h
        obtain ⟨condition, body, -, hBody, rfl⟩ := run_readBranch_eq_ok_iff.mp hBranch
        obtain ⟨hLength, -, hInner, -⟩ := hBodies hQueue hBody
        have hTail : middle.tail.length ≤ queue.length := by
          rw [List.length_tail]
          omega
        obtain ⟨hRest, hBranches⟩ := ih (Nat.le_trans hTail hQueue) hMore
        refine ⟨Nat.le_trans hRest hTail,
          fun hLast => ⟨Option.some_ne_none _, fun other hOther => ?_⟩⟩
        obtain ⟨hMiddle, hOthers⟩ := hBranches hLast
        have hNonempty : middle ≠ [] := by
          rintro rfl
          exact hMiddle rfl
        rcases List.mem_cons.mp hOther with rfl | hMem
        · exact hInner hNonempty
        · exact hOthers other hMem
      · have hNot : ∀ token, terminator = some token → token.isNamed ["elif"] = false :=
          fun token hToken => eq_false_of_ne_true fun hNamed => hElif ⟨token,
            hToken, hNamed⟩
        obtain ⟨rfl, rfl, rfl⟩ := (run_readAlternatives_of_not_elif hNot).mp h
        exact ⟨Nat.le_refl _, fun hLast => ⟨hLast,
          fun _ hBranch => absurd hBranch List.not_mem_nil⟩⟩

private theorem inner_of_readOtherwise (hBodies : bodies.Places limit)
    {terminator : Option Token} {closing : Token} {branches : List (Branch Node)}
    (hQueue : queue.length ≤ limit)
    (h : (readOtherwise terminator).run bodies queue =
      .ok (branches, some closing) rest) :
    terminator ≠ none ∧ ∀ branch ∈ branches, Node.All Node.Inner branch.body := by
  obtain ⟨hElse, body, middle, hBody, rfl, hClosing, -⟩ | ⟨-, rfl, rfl, -⟩ :=
    run_readOtherwise_eq_ok_iff.mp h
  · have hNonempty : middle ≠ [] := by
      rintro rfl
      cases hClosing
    refine ⟨?_, fun branch hBranch => ?_⟩
    · rintro rfl
      cases hElse
    · rw [List.mem_singleton.mp hBranch]
      exact (hBodies hQueue hBody).2.2.1 hNonempty
  · exact ⟨by simp, fun _ hBranch => absurd hBranch List.not_mem_nil⟩

private theorem inner_of_readChoice (hBodies : bodies.Places limit)
    (hQueue : queue.length ≤ limit)
    (h : (readChoice find token).run bodies queue = .ok node rest) :
    Node.All Node.Inner [node] := by
  obtain ⟨first, middle, alternatives, next, later, otherwise, closing, hFirst,
    hAlternatives, hOtherwise, -, rfl⟩ := run_readChoice_eq_ok_iff.mp h
  obtain ⟨condition, body, -, hBody, rfl⟩ := run_readBranch_eq_ok_iff.mp hFirst
  obtain ⟨hLength, -, hInner, -⟩ := hBodies hQueue hBody
  have hTail : middle.tail.length ≤ limit := by
    rw [List.length_tail]
    omega
  obtain ⟨hLater, hElifs⟩ := inner_of_readAlternatives hBodies hTail hAlternatives
  obtain ⟨hNext, hElse⟩ :=
    inner_of_readOtherwise hBodies (Nat.le_trans hLater hTail) hOtherwise
  -- The closing token is there, so a token ends every branch before it.
  obtain ⟨hMiddle, hElifs⟩ := hElifs hNext
  have hNonempty : middle ≠ [] := by
    rintro rfl
    exact hMiddle rfl
  refine inner_choice fun branch hBranch => ?_
  simp only [List.cons_append, List.mem_cons, List.mem_append] at hBranch
  rcases hBranch with rfl | hMem | hMem
  · exact hInner hNonempty
  · exact hElifs branch hMem
  · exact hElse branch hMem

private theorem inner_of_readFiltered (hBodies : bodies.Places limit)
    (hQueue : queue.length ≤ limit)
    (h : (readFiltered find token).run bodies queue = .ok node rest) :
    Node.All Node.Inner [node] := by
  obtain ⟨name, filters, body, last, chain, -, hBody, -, rfl⟩ :=
    run_readFiltered_eq_ok_iff.mp h
  intro part hPart
  rw [Node.partsOf_singleton] at hPart
  rcases List.mem_cons.mp hPart with rfl | hInside
  · exact ⟨rfl, rfl⟩
  · exact (inner_of_body hBodies hQueue hBody).1 part hInside

private theorem inner_of_readBlock (hBodies : bodies.Places limit)
    (hQueue : queue.length ≤ limit)
    (h : (readBlock find token).run bodies queue = .ok node rest) :
    Node.All Node.Inner [node] := by
  obtain ⟨tag, name, body, last, -, hBody, rfl⟩ := run_readBlock_eq_ok_iff.mp h
  intro part hPart
  rw [Node.partsOf_singleton] at hPart
  rcases List.mem_cons.mp hPart with rfl | hInside
  · exact ⟨rfl, rfl⟩
  · exact (inner_of_body hBodies hQueue hBody).1 part hInside

/-- A parent is named for the rest of the template, whose blocks name none. -/
private theorem placed_of_readInherit (hBodies : bodies.Places limit)
    (hQueue : queue.length ≤ limit)
    (h : (readInherit find token).run bodies queue = .ok node rest) :
    Node.Placed [node] ∧ rest = [] := by
  obtain ⟨tag, parent, nodes, -, hNodes, hOnce, rfl⟩ := run_readInherit_eq_ok_iff.mp h
  obtain ⟨-, hPlaced, -, hRest⟩ := hBodies hQueue hNodes
  refine ⟨.inr ⟨[], Variable.ofString parent, _, rfl, Node.all_nil,
    fun part hPart => ?_⟩, hRest
      fun token => by rw [Token.isNamed_nil]; cases token <;> rfl⟩
  obtain ⟨⟨name, block⟩, hMem, hInside⟩ := Block.mem_partsOf_iff.mp hPart
  obtain ⟨found, hFound, hNamed⟩ :=
    List.mem_filterMap.mp (Entries.mem_of_mem_ofList hMem)
  cases found with
  | block other =>
      cases hNamed
      exact hPlaced.inner hOnce part
        (Node.mem_partsOf_iff.mpr ⟨.block block, hFound, hInside⟩)
  | _ => cases hNamed

end Tag

/-! ## What bodies make of their tokens -/

namespace Registry

variable {registry : Registry} {bodies : BodyParser} {limit : Nat} {token : Token}
  {queue rest : List Token} {node : Option Node}

/-- A token without a word names no parent. -/
private theorem inner_of_readNode (hWord : token.word? = none)
    (h : registry.readNode bodies token queue = .ok node rest) :
    Node.All Node.Inner node.toList := by
  have hPlain : ∀ {part : Node}, part.parts = [part] → part.Inner →
      Node.All Node.Inner [part] := by
    intro part hParts hPart other hOther
    rw [Node.partsOf_singleton, hParts, List.mem_singleton] at hOther
    exact hOther ▸ hPart
  cases token with
  | text contents =>
      cases h
      exact hPlain rfl ⟨rfl, rfl⟩
  | comment contents =>
      cases h
      exact Node.all_nil
  | output contents =>
      obtain ⟨chain, middle, -, hEnd⟩ := Parser.bind_eq_ok_iff.mp h
      cases hEnd
      exact hPlain rfl ⟨rfl, rfl⟩
  | block contents =>
      have hName : (Token.block contents).name? = none := hWord
      have hRead : registry.readNode bodies (.block contents) queue =
          .ok none queue := by
        show registry.readBlock bodies (.block contents) queue = _
        simp only [readBlock, hName]
        rfl
      rw [hRead] at h
      cases h
      exact Node.all_nil

/-- The node of a token names no parent, or it takes everything behind the token. -/
private theorem placed_of_readNode (hStandard : registry.HasStandardTags)
    (hBodies : bodies.Places limit) (hQueue : queue.length ≤ limit)
    (h : registry.readNode bodies token queue = .ok node rest) :
    Node.All Node.Inner node.toList ∨ Node.Placed node.toList ∧ rest = [] := by
  cases hWord : token.word? with
  | none => exact .inl (inner_of_readNode hWord h)
  | some word =>
      obtain ⟨reader, found, hFind, hRun, rfl⟩ := (readNode_eq_ok_iff hWord).mp h
      have hMem := hStandard.mem_of_findTag hFind
      have hPlain : found.parts = [found] → found.Inner →
          Node.All Node.Inner [found] := by
        intro hParts hFound other hOther
        rw [Node.partsOf_singleton, hParts, List.mem_singleton] at hOther
        exact hOther ▸ hFound
      simp only [standardTags, List.mem_cons, Prod.mk.injEq, List.not_mem_nil, or_false]
        at hMem
      obtain ⟨rfl, rfl⟩ | ⟨rfl, rfl⟩ | ⟨rfl, rfl⟩ | ⟨rfl, rfl⟩ | ⟨rfl, rfl⟩ |
        ⟨rfl, rfl⟩ | ⟨rfl, rfl⟩ | ⟨rfl, rfl⟩ := hMem
      · exact .inl (Tag.inner_of_readLoop hBodies hQueue hRun)
      · exact .inl (Tag.inner_of_readChoice hBodies hQueue hRun)
      · exact .inl (Tag.inner_of_readNegatedChoice hBodies hQueue hRun)
      · obtain ⟨_, _, -, -, rfl⟩ := Tag.run_readNow_eq_ok_iff.mp hRun
        exact .inl (hPlain rfl ⟨rfl, rfl⟩)
      · obtain ⟨_, _, _, -, -, rfl⟩ := Tag.run_readEmbed_eq_ok_iff.mp hRun
        exact .inl (hPlain rfl ⟨rfl, rfl⟩)
      · exact .inr (Tag.placed_of_readInherit hBodies hQueue hRun)
      · exact .inl (Tag.inner_of_readBlock hBodies hQueue hRun)
      · exact .inl (Tag.inner_of_readFiltered hBodies hQueue hRun)

/-- In a body a parent is named at the end of the queue or nowhere. -/
theorem places_parseUntil (hStandard : registry.HasStandardTags) (limit : Nat) :
    BodyParser.Places registry.parseUntil limit := by
  have hWhole : ∀ {stop queue nodes rest}, registry.parseUntil stop queue =
      .ok nodes rest → Node.Placed nodes → (rest ≠ [] → Node.All Node.Inner nodes) →
      rest.length ≤ queue.length ∧ Node.Placed nodes ∧
        (rest ≠ [] → Node.All Node.Inner nodes) ∧
        ((∀ token, ends stop token = false) → rest = []) := by
    intro stop queue nodes rest h hPlaced hInner
    have hTails := registry.tails_parseUntil stop queue
    rw [Parser.left_of_ok h] at hTails
    exact ⟨hTails.length_le, hPlaced, hInner,
      fun hStop => registry.parseBody_leaves_nil hStop (Nat.le_refl _) h⟩
  induction limit with
  | zero =>
      intro stop queue nodes rest hQueue h
      cases List.length_eq_zero_iff.mp (Nat.le_zero.mp hQueue)
      refine hWhole h ?_ ?_ <;> cases h
      · exact .inl Node.all_nil
      · exact fun _ => Node.all_nil
  | succ limit ih =>
      intro stop queue nodes rest hQueue h
      cases queue with
      | nil => exact ih (Nat.zero_le _) h
      | cons token queue =>
          have hShorter : queue.length ≤ limit := Nat.le_of_succ_le_succ hQueue
          cases hEnds : ends stop token with
          | true =>
              have hNone := h
              rw [registry.parseUntil_of_ends hEnds] at hNone
              refine hWhole h ?_ ?_ <;> cases hNone
              · exact .inl Node.all_nil
              · exact fun _ => Node.all_nil
          | false =>
              have hCons := h
              rw [registry.parseUntil_cons hEnds] at hCons
              obtain ⟨node, middle, hNode, hMore⟩ := Parser.bind_eq_ok_iff.mp hCons
              obtain ⟨others, last, hOthers, hEnd⟩ := Parser.bind_eq_ok_iff.mp hMore
              cases hEnd
              have hTails :=
                registry.tails_readNode registry.tails_parseUntil token queue
              rw [Parser.left_of_ok hNode] at hTails
              obtain hInner | ⟨hPlaced, rfl⟩ :=
                placed_of_readNode hStandard ih hShorter hNode
              · obtain ⟨-, hPlaced, hOthers, -⟩ :=
                  ih (Nat.le_trans hTails.length_le hShorter) hOthers
                exact hWhole h (.append hInner hPlaced)
                  fun hRest => Node.all_append.mpr ⟨hInner, hOthers hRest⟩
              · cases hOthers
                rw [List.append_nil] at h ⊢
                exact hWhole h hPlaced fun hRest => absurd rfl hRest

end Registry

/-- A template names a parent at its end or nowhere, and nothing in front of it does. -/
theorem Environment.placed_of_parse {σ : Type} {env : Environment σ}
    (hStandard : env.registry.HasStandardTags) {source : String} {nodes : List Node}
    (h : env.parse source = .ok nodes) : Node.Placed nodes := by
  unfold Environment.parse Registry.parse at h
  split at h
  · rename_i rest hAll
    cases h
    exact (Registry.places_parseUntil hStandard _ (Nat.le_refl _) hAll).2.1
  · cases h

end TextTemplate
