import TextTemplate.Proofs.Token.Nesting
import TextTemplate.Tag.Choice
import TextTemplate.Tag.Loop
import TextTemplate.Tag.Region

/-!
# Trees as they are written

`Markup` is a tree of the standard tags together with the way it is written. Every tag
comes with the contents of the token that opens it, with what these contents say, and
with the fact that conditions, sources and filter chains compile, so a tree that could
not be read cannot be built. A tree is written as tokens, each body between the token
that opens the tag, those that divide it, and the one that closes it; and it stands for
a node, in which comments are gone.

The filters that chains are compiled with are a parameter.

## Main results

* `Markup.tokensOf`, `Markup.nodesOf` — what trees are written as and what they
  stand for.
* `Markup.nested_tokensOf` — trees are written as nested tokens.
-/

namespace TextTemplate

/-! ## Tags as they are written -/

section Tags

variable (find : FilterFinder)

/-- An output, with the chain that its contents write. -/
structure OutputTag where
  contents : String
  chain : FilterChain
  compiles : FilterChain.compile find contents = .ok chain

/-- The components from `where` on. -/
def whereClause : Option (List String) → List String
  | none => []
  | some condition => "where" :: condition

/-- The tag that opens a loop, with the components of its condition if it has one. -/
structure LoopTag where
  contents : String
  names : String
  source : String
  operand : Operand
  filter : Option (List String)
  condition : Option Condition
  reads : (Token.block contents).components = "for" :: names :: "in" :: source ::
    whereClause filter
  compilesSource : Operand.compile find source = .ok operand
  compilesFilter : Tag.compileCondition find filter = .ok condition

/-- A tag with a condition behind its name. -/
structure ConditionTag (word : String) where
  contents : String
  components : List String
  condition : Condition
  reads : (Token.block contents).components = word :: components
  compiles : Condition.parse find components = .ok condition

/-- The tag that opens a negated choice, whose condition is a single component. -/
structure NegationTag extends ConditionTag find "ifnot" where
  single : components.length = 1

/-- The tag that opens a filtered region. -/
structure FilterTag where
  contents : String
  filters : String
  chain : FilterChain
  reads : (Token.block contents).components = ["filter", filters]
  compiles : FilterChain.compile find (Tag.regionName ++ "|" ++ filters) = .ok chain

/-- The tag that opens a block. -/
structure BlockTag where
  contents : String
  name : String
  reads : (Token.block contents).components = ["block", name]

/-- The tag that includes a template. -/
structure EmbedTag where
  contents : String
  template : String
  bindings : Option String
  reads : (Token.block contents).components = "include" :: template :: bindings.toList

/-- The tag that shows the time. -/
structure NowTag where
  contents : String
  format : Option String
  reads : (Token.block contents).components = "now" :: format.toList

/-- An `elif` with the body behind it. -/
structure Alternative (ν : Type) where
  tag : ConditionTag find "elif"
  body : List ν

/-! ## Trees as they are written -/

/-- A tree as it is written, where a body that is none is one that the tag does
without. -/
inductive Markup where
  | text (contents : String)
  | comment (contents : String)
  | output (tag : OutputTag find)
  | loop (tag : LoopTag find) (body : List Markup) (empty : Option (List Markup))
  | choice (tag : ConditionTag find "if") (body : List Markup)
      (alternatives : List (Alternative find Markup)) (otherwise : Option (List Markup))
  | negatedChoice (tag : NegationTag find) (failing : List Markup)
      (holding : Option (List Markup))
  | filtered (tag : FilterTag find) (body : List Markup)
  | block (tag : BlockTag) (body : List Markup)
  | embed (tag : EmbedTag)
  | now (tag : NowTag)

end Tags

variable {find : FilterFinder}

/-- The first of the tokens that a tree is written with. -/
def Markup.opening : Markup find → Token
  | text contents => .text contents
  | comment contents => .comment contents
  | output tag => .output tag.contents
  | loop tag _ _ => .block tag.contents
  | choice tag _ _ _ => .block tag.contents
  | negatedChoice tag _ _ => .block tag.contents
  | filtered tag _ => .block tag.contents
  | block tag _ => .block tag.contents
  | embed tag => .block tag.contents
  | now tag => .block tag.contents

mutual

/-- The tokens behind the first. -/
def Markup.inner : Markup find → List Token
  | .text _ => []
  | .comment _ => []
  | .output _ => []
  | .loop _ body empty =>
    Markup.tokensOf body ++ (Markup.tokensBehind "empty" empty ++ [.block "endfor"])
  | .choice _ body alternatives otherwise =>
    Markup.tokensOf body ++ (Alternative.tokensOf alternatives ++
      (Markup.tokensBehind "else" otherwise ++ [.block "endif"]))
  | .negatedChoice _ failing holding =>
    Markup.tokensOf failing ++ (Markup.tokensBehind "else" holding ++ [.block "endif"])
  | .filtered _ body => Markup.tokensOf body ++ [.block "endfilter"]
  | .block _ body => Markup.tokensOf body ++ [.block "endblock"]
  | .embed _ => []
  | .now _ => []

/-- The tokens that trees are written with. -/
def Markup.tokensOf : List (Markup find) → List Token
  | [] => []
  | markup :: rest => markup.opening :: (Markup.inner markup ++ Markup.tokensOf rest)

/-- The tokens of a body behind a block with a single word, if there is one. -/
def Markup.tokensBehind (word : String) : Option (List (Markup find)) → List Token
  | none => []
  | some body => .block word :: Markup.tokensOf body

/-- The tokens of alternatives. -/
def Alternative.tokensOf : List (Alternative find (Markup find)) → List Token
  | [] => []
  | ⟨tag, body⟩ :: rest =>
    .block tag.contents :: (Markup.tokensOf body ++ Alternative.tokensOf rest)

end

mutual

/-- The node that a tree stands for; a comment stands for none. -/
def Markup.node? : Markup find → Option Node
  | .text contents => some (.text contents)
  | .comment _ => none
  | .output tag => some (.output (.filtered tag.chain))
  | .loop tag body empty =>
    some (.loop (Tag.LoopHeader.splitNames tag.names) tag.operand tag.condition
      (Markup.nodesOf body) (Markup.nodesBehind empty))
  | .choice tag body alternatives otherwise =>
    some (.choice (⟨some tag.condition, Markup.nodesOf body⟩ ::
      Alternative.branchesOf alternatives ++ Markup.branchBehind otherwise))
  | .negatedChoice tag failing holding =>
    some (.choice [⟨some tag.condition, Markup.nodesBehind holding⟩,
      ⟨none, Markup.nodesOf failing⟩])
  | .filtered tag body => some (.filtered tag.chain (Markup.nodesOf body))
  | .block tag body =>
    some (.block ⟨tag.name, (Markup.tokensOf body).any Tag.mentionsSuper,
      Markup.nodesOf body⟩)
  | .embed tag =>
    some (.embed (Variable.ofString tag.template) (tag.bindings.map Variable.ofString))
  | .now tag => some (.now (tag.format.map Variable.ofString))

/-- The nodes that trees stand for. -/
def Markup.nodesOf : List (Markup find) → List Node
  | [] => []
  | markup :: rest => (Markup.node? markup).toList ++ Markup.nodesOf rest

/-- The nodes of a body, if there is one. -/
def Markup.nodesBehind : Option (List (Markup find)) → List Node
  | none => []
  | some body => Markup.nodesOf body

/-- The branch without a condition, if there is one. -/
def Markup.branchBehind : Option (List (Markup find)) → List (Branch Node)
  | none => []
  | some body => [⟨none, Markup.nodesOf body⟩]

/-- The branches that alternatives stand for. -/
def Alternative.branchesOf : List (Alternative find (Markup find)) → List (Branch Node)
  | [] => []
  | ⟨tag, body⟩ :: rest =>
    ⟨some tag.condition, Markup.nodesOf body⟩ :: Alternative.branchesOf rest

end

/-! ## Trees are written as nested tokens -/

mutual

/-- A tree before nested tokens. -/
theorem Markup.nested_cons (markup : Markup find) {rest : List Token}
    (hRest : Nested Enclosure.Closes rest) :
    Nested Enclosure.Closes (markup.opening :: (markup.inner ++ rest)) := by
  cases markup with
  | text contents => exact .alone List.mem_cons_self hRest
  | comment contents => exact .alone List.mem_cons_self hRest
  | output tag => exact .alone List.mem_cons_self hRest
  | loop tag body empty =>
      obtain ⟨words, hWords, hDivided⟩ := Markup.divided_tokensBehind "empty" rfl empty
      have hDivides : Enclosure.loop.Divides words := hWords
      exact (Encloses.intro (Markup.nested_tokensOf body) hDivided hDivides
        (Enclosure.closes_block_closer .loop)).nested
        (Token.word?_of_components tag.reads) hRest
  | choice tag body alternatives otherwise =>
      obtain ⟨words, hWords, hDivided⟩ :=
        Markup.divided_tokensBehind "else" rfl otherwise
      have hDivides := Enclosure.divides_choice alternatives.length hWords
      have hEncloses := Encloses.intro (Markup.nested_tokensOf body)
        ((Alternative.divided_tokensOf alternatives).append hDivided) hDivides
        (Enclosure.closes_block_closer .choice)
      rw [List.append_assoc] at hEncloses
      exact hEncloses.nested (Token.word?_of_components tag.reads) hRest
  | negatedChoice tag failing holding =>
      obtain ⟨words, hWords, hDivided⟩ := Markup.divided_tokensBehind "else" rfl holding
      have hDivides : Enclosure.negatedChoice.Divides words := hWords
      exact (Encloses.intro (Markup.nested_tokensOf failing) hDivided hDivides
        (Enclosure.closes_block_closer .negatedChoice)).nested
        (Token.word?_of_components tag.reads) hRest
  | filtered tag body =>
      exact (Encloses.whole (Markup.nested_tokensOf body)
        (Enclosure.closes_block_closer .filtered)).nested
        (Token.word?_of_components tag.reads) hRest
  | block tag body =>
      exact (Encloses.whole (Markup.nested_tokensOf body)
        (Enclosure.closes_block_closer .block)).nested
        (Token.word?_of_components tag.reads) hRest
  | embed tag =>
      exact .alone (Token.standsAlone_of_components tag.reads (by decide)) hRest
  | now tag =>
      exact .alone (Token.standsAlone_of_components tag.reads (by decide)) hRest

/-- Trees are written as nested tokens. -/
theorem Markup.nested_tokensOf (markups : List (Markup find)) :
    Nested Enclosure.Closes (Markup.tokensOf markups) := by
  cases markups with
  | nil => exact .nil
  | cons markup rest => exact Markup.nested_cons markup (Markup.nested_tokensOf rest)

theorem Markup.divided_tokensBehind (word : String)
    (hWord : (Token.block word).word? = some word)
    (body : Option (List (Markup find))) :
    ∃ words, (words = [] ∨ words = [some word]) ∧
      Divided Enclosure.Closes words (Markup.tokensBehind word body) := by
  cases body with
  | none => exact ⟨[], .inl rfl, .nil⟩
  | some body =>
      refine ⟨[some word], .inr rfl, ?_⟩
      have h := Divided.cons hWord (Markup.nested_tokensOf body) .nil
      rwa [List.append_nil] at h

theorem Alternative.divided_tokensOf
    (alternatives : List (Alternative find (Markup find))) :
    Divided Enclosure.Closes (List.replicate alternatives.length (some "elif"))
      (Alternative.tokensOf alternatives) := by
  cases alternatives with
  | nil => exact .nil
  | cons alternative rest =>
      obtain ⟨tag, body⟩ := alternative
      exact .cons (Token.word?_of_components tag.reads) (Markup.nested_tokensOf body)
        (Alternative.divided_tokensOf rest)

end

end TextTemplate
