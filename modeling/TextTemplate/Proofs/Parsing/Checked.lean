import TextTemplate.Proofs.Filter.Uses
import TextTemplate.Proofs.Mapping
import TextTemplate.Proofs.Node.Parts
import TextTemplate.Proofs.Parsing.Readers

/-!
# Names are looked up when a template is parsed

Tags and filters are found while a template is parsed, so a name that nobody knows is an
error of parsing. With the standard tags there is no other kind of error but a fault in
the way the template is written, and in a tree that parsing gives all filters have been
found, wherever they stand: in outputs, in ranges, in the conditions of loops and
choices, and in filtered regions.

The readers of tags are opened once more for it, since here they may fail. They are
programs over the queue, so there is one rule for each of the things that such a program
can do.

## Main results

* `Tag.checks_of_standard` — what a standard tag reads.
* `Registry.checked_parse` — what a source parses to.
-/

namespace TextTemplate

variable {α β : Type}

/-! ## Readers of tags -/

/-- The parser gives one of these values or says that the template is written
wrongly. -/
def Parser.Checks (values : α → Prop) (parser : Parser α) : Prop :=
  ∀ queue, match parser queue with
    | .ok value _ => values value
    | .error error _ => error.isSyntactic = true

namespace Parser.Checks

theorem pure {values : α → Prop} {value : α} (h : values value) :
    (Pure.pure value : Parser α).Checks values :=
  fun _ => h

theorem ofExcept {values : α → Prop} {outcome : Except Error α}
    (h : Checked values outcome) :
    (Parser.ofExcept outcome).Checks values := by
  intro queue
  cases outcome with
  | ok value => exact h
  | error error => exact h

theorem bind {values : α → Prop} {others : β → Prop} {first : Parser α}
    {next : α → Parser β} (hFirst : first.Checks values)
    (hNext : ∀ value, values value → (next value).Checks others) :
    (first >>= next).Checks others := by
  intro queue
  have hStart := hFirst queue
  simp only [Bind.bind, EStateM.bind]
  cases hRun : first queue with
  | ok value rest =>
      rw [hRun] at hStart
      exact hNext value hStart rest
  | error error left =>
      rw [hRun] at hStart
      exact hStart

end Parser.Checks

/-- All filters in a tree satisfy a property. -/
abbrev Node.AllUse (known : Filter → Prop) (nodes : List Node) : Prop :=
  Node.All (Node.Uses known) nodes

namespace Reading

variable {known : Filter → Prop}

/-- The same for the program of a tag, as long as all filters in the bodies that it
parses satisfy the property. -/
def Checks (known : Filter → Prop) (values : α → Prop) (reading : Reading α) : Prop :=
  ∀ bodies : BodyParser, (∀ stop, (bodies stop).Checks (Node.AllUse known)) →
    (reading.run bodies).Checks values

namespace Checks

theorem pure {values : α → Prop} {value : α} (h : values value) :
    Checks known values (Pure.pure value) :=
  fun _ _ _ => h

theorem fault {values : α → Prop} (cause : Fault) :
    Checks known values (Reading.fault cause) :=
  fun _ _ _ => rfl

theorem ofExcept {values : α → Prop} {outcome : Except Error α}
    (h : Checked values outcome) :
    Checks known values (Reading.ofExcept outcome) := by
  intro bodies _ queue
  cases outcome with
  | ok value => exact h
  | error error => exact h

theorem bind {values : α → Prop} {others : β → Prop} {first : Reading α}
    {next : α → Reading β} (hFirst : Checks known values first)
    (hNext : ∀ value, values value → Checks known others (next value)) :
    Checks known others (first >>= next) := by
  intro bodies hBodies queue
  rw [run_bind]
  exact (hFirst bodies hBodies).bind
    (fun value hValue => hNext value hValue bodies hBodies) queue

theorem next : Checks known (fun _ => True) Reading.next := by
  intro bodies _ queue
  cases queue <;> trivial

theorem rest : Checks known (fun _ => True) Reading.rest :=
  fun _ _ _ => trivial

theorem close (closing : String) :
    Checks known (fun _ => True) (Reading.close closing) :=
  next.bind fun token _ => by
    cases token with
    | some token => exact pure trivial
    | none => exact fault _

theorem bodyUntil (names : List String) :
    Checks known (Node.AllUse known) (Reading.bodyUntil names) := by
  intro bodies hBodies queue
  rw [run_bodyUntil]
  exact hBodies (Token.isNamed names) queue

/-- A body and the token that closes it. -/
theorem closed (names : List String) (closing : String) :
    Checks known (Node.AllUse known) (do
      let body ← Reading.bodyUntil names
      let _ ← Reading.close closing
      return body) :=
  (bodyUntil names).bind fun _ hBody => (close closing).bind fun _ _ => pure hBody

end Checks

end Reading

namespace Tag

open Reading

variable {known : Filter → Prop} {find : FilterFinder}

/-- What a tag reads is a node of which all filters satisfy a property. -/
abbrev Reads (known : Filter → Prop) (reading : Reading Node) : Prop :=
  reading.Checks known fun node => Node.AllUse known [node]

/-- All filters of the branch satisfy a property. -/
def BranchUses (known : Filter → Prop) (branch : Branch Node) : Prop :=
  (∀ test ∈ branch.condition, test.Uses known) ∧ Node.AllUse known branch.body

theorem allUse_choice {branches : List (Branch Node)}
    (h : ∀ branch ∈ branches, BranchUses known branch) :
    Node.AllUse known [.choice branches] :=
  Node.all_choice.mpr
    ⟨fun branch hBranch => (h branch hBranch).1,
      fun branch hBranch => (h branch hBranch).2⟩

private theorem checks_readEmpty (terminator : Token) :
    (readEmpty terminator).Checks known (Node.AllUse known) := by
  unfold readEmpty
  split
  · exact .closed _ _
  · exact .pure Node.all_nil

private theorem checks_readOtherwise (terminator : Option Token) :
    (readOtherwise terminator).Checks known
      fun found => ∀ branch ∈ found.1, BranchUses known branch := by
  unfold readOtherwise
  split
  · refine (Checks.bodyUntil _).bind fun body hBody => Checks.next.bind
      fun last _ => .pure ?_
    exact List.forall_mem_singleton.mpr ⟨fun test hTest => (nomatch hTest), hBody⟩
  · exact .pure fun branch hBranch => absurd hBranch List.not_mem_nil

private theorem checks_readHolding (terminator : Token) :
    (readHolding terminator).Checks known (Node.AllUse known) := by
  unfold readHolding
  split
  · exact .closed _ _
  · exact .pure Node.all_nil

private theorem checks_readBlock (token : Token) :
    Reads known (readBlock find token) := by
  unfold readBlock
  split
  · refine Checks.rest.bind fun ahead _ => ?_
    refine (Checks.bodyUntil _).bind fun body hBody => (Checks.close _).bind
      fun _ _ => ?_
    exact .pure (Node.all_block.mpr ⟨trivial, hBody⟩)
  · exact .fault _

private theorem checks_readInherit (token : Token) :
    Reads known (readInherit find token) := by
  unfold readInherit
  split
  · refine (Checks.bodyUntil _).bind fun nodes hNodes => ?_
    split
    · exact .fault _
    · refine .pure (Node.all_inherit.mpr ⟨trivial, fun entry hEntry => ?_⟩)
      obtain ⟨node, hMem, hNamed⟩ :=
        List.mem_filterMap.mp (Entries.mem_of_mem_ofList hEntry)
      cases node with
      | block block =>
          cases hNamed
          exact hNodes.of_mem hMem
      | _ => cases hNamed
  · exact .fault _

private theorem checks_readEmbed (token : Token) :
    Reads known (readEmbed find token) := by
  unfold readEmbed
  split
  · exact .pure ((Node.all_leaf rfl).mpr trivial)
  · exact .pure ((Node.all_leaf rfl).mpr trivial)
  · exact .fault _

private theorem checks_readNow (token : Token) : Reads known (readNow find token) := by
  unfold readNow
  split
  · exact .pure ((Node.all_leaf rfl).mpr trivial)
  · exact .pure ((Node.all_leaf rfl).mpr trivial)
  · exact .fault _

section Finding

variable (hFind : find.Checks known)

include hFind

private theorem checked_compileCondition (condition : Option (List String)) :
    Checked (fun found => ∀ test ∈ found, Condition.Uses known test)
      (compileCondition find condition) := by
  cases condition with
  | none => exact fun test hTest => nomatch hTest
  | some components =>
      refine (Condition.checked_parse hFind components).map
        fun condition hCondition => ?_
      rintro _ ⟨⟩
      exact hCondition

private theorem checks_readLoop (token : Token) :
    Reads known (readLoop find token) := by
  unfold readLoop
  split
  · exact .fault _
  · rename_i header _
    refine (Checks.bodyUntil _).bind fun body hBody => (Checks.close _).bind
      fun terminator _ => ?_
    refine (checks_readEmpty terminator).bind fun empty hEmpty => ?_
    refine (Checks.ofExcept (Operand.checked_compile hFind header.source)).bind
      fun source hSource => ?_
    refine (Checks.ofExcept (checked_compileCondition hFind header.condition)).bind
      fun condition hCondition => ?_
    exact .pure (Node.all_loop.mpr ⟨⟨hSource, hCondition⟩, hBody, hEmpty⟩)

private theorem checks_readBranch (token : Token) :
    (readBranch find token).Checks known (BranchUses known) := by
  refine (Checks.ofExcept (Condition.checked_parse hFind _)).bind
    fun condition hCondition => ?_
  refine (Checks.bodyUntil _).bind fun body hBody => .pure ⟨?_, hBody⟩
  rintro _ ⟨⟩
  exact hCondition

private theorem checks_readAlternatives (rounds : List Token)
    (terminator : Option Token) :
    (readAlternatives find rounds terminator).Checks known
      fun found => ∀ branch ∈ found.1, BranchUses known branch := by
  induction rounds generalizing terminator with
  | nil => exact .pure fun branch hBranch => absurd hBranch List.not_mem_nil
  | cons round rounds ih =>
      cases terminator with
      | none => exact .pure fun branch hBranch => absurd hBranch List.not_mem_nil
      | some token =>
          unfold readAlternatives
          split
          · refine (checks_readBranch hFind token).bind fun branch hBranch => ?_
            refine Checks.next.bind fun next _ => (ih next).bind
              fun found hFound => .pure ?_
            exact List.forall_mem_cons.mpr ⟨hBranch, hFound⟩
          · exact .pure fun branch hBranch => absurd hBranch List.not_mem_nil

private theorem checks_readChoice (token : Token) :
    Reads known (readChoice find token) := by
  unfold readChoice
  refine (checks_readBranch hFind token).bind fun first hFirst => ?_
  refine Checks.next.bind fun terminator _ => Checks.rest.bind fun ahead _ => ?_
  refine (checks_readAlternatives hFind _ terminator).bind ?_
  rintro ⟨alternatives, next⟩ hAlternatives
  refine (checks_readOtherwise next).bind ?_
  rintro ⟨otherwise, last⟩ hOtherwise
  dsimp only
  split
  · refine .pure (allUse_choice fun branch hBranch => ?_)
    simp only [List.cons_append, List.mem_cons, List.mem_append] at hBranch
    rcases hBranch with rfl | hMem | hMem
    · exact hFirst
    · exact hAlternatives branch hMem
    · exact hOtherwise branch hMem
  · exact .fault _

private theorem checks_readNegatedChoice (token : Token) :
    Reads known (readNegatedChoice find token) := by
  unfold readNegatedChoice
  split
  · exact .fault _
  · refine (Checks.bodyUntil _).bind fun failing hFailing => (Checks.close _).bind
      fun terminator _ => ?_
    refine (checks_readHolding terminator).bind fun holding hHolding => ?_
    refine (Checks.ofExcept (Condition.checked_parse hFind _)).bind
      fun condition hCondition => ?_
    refine .pure (allUse_choice (List.forall_mem_cons.mpr ⟨⟨?_, hHolding⟩, ?_⟩))
    · rintro _ ⟨⟩
      exact hCondition
    · exact List.forall_mem_singleton.mpr ⟨fun test hTest => (nomatch hTest), hFailing⟩

private theorem checks_readFiltered (token : Token) :
    Reads known (readFiltered find token) := by
  unfold readFiltered
  split
  · refine (Checks.bodyUntil _).bind fun body hBody => (Checks.close _).bind
      fun _ _ => ?_
    refine (Checks.ofExcept (FilterChain.checked_compile hFind _)).bind
      fun chain hChain => ?_
    exact .pure (Node.all_filtered.mpr ⟨hChain, hBody⟩)
  · exact .fault _

/-- The standard tags find all their filters while they read. -/
theorem checks_of_standard {word : String} {reader : TagReader}
    (hMem : (word, reader) ∈ Registry.standardTags) (token : Token) :
    Reads known (reader find token) := by
  simp only [Registry.standardTags, List.mem_cons, Prod.mk.injEq, List.not_mem_nil,
    or_false] at hMem
  obtain ⟨-, rfl⟩ | ⟨-, rfl⟩ | ⟨-, rfl⟩ | ⟨-, rfl⟩ | ⟨-, rfl⟩ | ⟨-, rfl⟩ | ⟨-, rfl⟩ |
    ⟨-, rfl⟩ := hMem
  · exact checks_readLoop hFind token
  · exact checks_readChoice hFind token
  · exact checks_readNegatedChoice hFind token
  · exact checks_readNow token
  · exact checks_readEmbed token
  · exact checks_readInherit token
  · exact checks_readBlock token
  · exact checks_readFiltered hFind token

end Finding

end Tag

/-! ## Templates -/

namespace Registry

variable {registry : Registry} {known : Filter → Prop}

/-- All filters that the registry finds are standard ones. -/
def FindsStandardFilters (registry : Registry) : Prop :=
  ∀ name filter, registry.findFilter name = .ok filter →
    (name, filter) ∈ Filter.standard

theorem findFilter_standard_eq_ok_iff {name : String} {filter : Filter} :
    Registry.findFilter [Extension.standard] name = .ok filter ↔
      (name, filter) ∈ Filter.standard := by
  have hGet : Extension.standard.filters.get? name = some filter ↔
      (name, filter) ∈ Filter.standard :=
    Mapping.get?_ofList_eq_some_iff (by decide)
  rw [← hGet, findFilter, List.findSome?_singleton]
  cases Extension.standard.filters.get? name <;> simp

/-- A filter that is not found is unknown. -/
theorem checks_findFilter
    (h : ∀ name filter, registry.findFilter name = .ok filter → known filter) :
    registry.findFilter.Checks known := by
  intro name
  cases hFound : registry.findFilter name with
  | ok filter => exact h name filter hFound
  | error error =>
      unfold findFilter at hFound
      split at hFound <;> cases hFound
      rfl

/-- A tag that is not found is unknown, and the others are standard ones. -/
private theorem checked_findTag (hTags : registry.HasStandardTags) (name : String) :
    Checked (fun reader => (name, reader) ∈ standardTags) (registry.findTag name) := by
  cases hFound : registry.findTag name with
  | ok reader => exact hTags.mem_of_findTag hFound
  | error error =>
      unfold findTag at hFound
      split at hFound <;> cases hFound
      rfl

variable (hTags : registry.HasStandardTags) (hFind : registry.findFilter.Checks known)

include hTags hFind

private theorem checks_readNode {bodies : BodyParser}
    (hBodies : ∀ stop, (bodies stop).Checks (Node.AllUse known)) (token : Token) :
    (registry.readNode bodies token).Checks
      fun node => Node.AllUse known node.toList := by
  cases token with
  | text contents => exact .pure ((Node.all_leaf rfl).mpr trivial)
  | comment contents => exact .pure Node.all_nil
  | output contents =>
      have hCompiled := FilterChain.checked_compile hFind contents
      refine (Parser.Checks.ofExcept hCompiled).bind fun chain hChain => ?_
      exact .pure ((Node.all_leaf rfl).mpr hChain)
  | block contents =>
      show (registry.readBlock bodies (.block contents)).Checks _
      unfold readBlock
      split
      · exact .pure Node.all_nil
      · rename_i name _
        refine (Parser.Checks.ofExcept (checked_findTag hTags name)).bind
          fun reader hMem => ?_
        have hNode := Tag.checks_of_standard hFind hMem (.block contents) bodies hBodies
        exact hNode.bind fun node hUse => .pure hUse

/-- All filters in a body were found, or the body is written wrongly. The induction is
on the number of steps. -/
private theorem checks_parseBody (steps : Nat) (stop : Token → Bool) :
    (registry.parseBody steps stop).Checks (Node.AllUse known) := by
  induction steps generalizing stop with
  | zero => exact .pure Node.all_nil
  | succ steps ih =>
      intro queue
      cases queue with
      | nil =>
          rw [registry.parseBody_nil]
          exact Node.all_nil
      | cons token rest =>
          cases hEnds : ends stop token with
          | true =>
              rw [registry.parseBody_of_ends hEnds]
              exact Node.all_nil
          | false =>
              rw [registry.parseBody_of_goes_on hEnds]
              refine (checks_readNode hTags hFind ih token).bind
                (fun node hNode => ?_) rest
              exact (ih stop).bind fun nodes hNodes =>
                .pure (Node.all_append.mpr ⟨hNode, hNodes⟩)

/-- A template fails to parse only where it is written wrongly, and the filters in its
tree were found. -/
theorem checked_parse (source : String) :
    Checked (Node.AllUse known) (registry.parse source) := by
  have hAll : registry.parseAll.Checks (Node.AllUse known) := fun queue =>
    checks_parseBody hTags hFind queue.length _ queue
  have hParsed := hAll (tokenize source)
  unfold parse
  cases hRun : registry.parseAll (tokenize source) with
  | ok nodes rest =>
      rw [hRun] at hParsed
      exact hParsed
  | error error left =>
      rw [hRun] at hParsed
      exact hParsed

end Registry

end TextTemplate
