import TextTemplate.Environment
import TextTemplate.Proofs.Parsing.Queue

/-!
# Templates that name a parent

A template that begins with `extends` is a single node: the tag reads everything behind
it and keeps the blocks. This module proves that such a template parses exactly to that
node, whatever else it contains, and so ties its tree to the nodes that the rest of its
tokens are parsed to.

## Main results

* `Registry.parseAll_extends` — what a queue that begins with `extends` is parsed to, or
  why it is not.
* `Environment.parse_extends`, `Environment.parse_of_extends` — the tree of a template
  that names a parent.
-/

namespace TextTemplate

/-- No token has a name out of none. -/
theorem Token.isNamed_nil : Token.isNamed [] = fun _ => false := by
  funext token
  unfold Token.isNamed
  cases token.name? <;> rfl

/-- Reading a parent is reading the rest of the template. -/
theorem Tag.run_readInherit {token : Token} {tag parent : String}
    (h : token.components = [tag, parent]) (find : FilterFinder) (bodies : BodyParser)
    (queue : List Token) :
    (Tag.readInherit find token).run bodies queue =
      match bodies (fun _ => false) queue with
      | .ok nodes rest =>
        if nodes.any Tag.isInherit then .error (.fault .repeatedExtends) rest
        else .ok (.inherit (Variable.ofString parent)
          (Entries.ofList (nodes.filterMap Tag.namedBlock?))) rest
      | .error error rest => .error error rest := by
  unfold Tag.readInherit
  rw [h]
  show Reading.run bodies (Reading.body (Token.isNamed []) _) queue = _
  rw [Reading.run, Token.isNamed_nil]
  simp only [bind, EStateM.bind, Parser.outcome]
  cases bodies (fun _ => false) queue with
  | error error rest => rfl
  | ok nodes rest =>
      show Reading.run bodies (if nodes.any Tag.isInherit then _ else _) rest =
        if nodes.any Tag.isInherit then _ else _
      split <;> rfl

namespace Registry

variable {registry : Registry} {tokens : List Token} {opening quoted : String}

/-- A queue that begins with `extends` is parsed to one node, which keeps the blocks of
what the tokens behind it are parsed to. These tokens may name no parent again. -/
theorem parseAll_extends (hExtends : registry.findTag "extends" = .ok Tag.readInherit)
    (hComponents : (Token.block opening).components = ["extends", quoted])
    (tokens : List Token) :
    registry.parseAll (.block opening :: tokens) =
      match registry.parseAll tokens with
      | .ok nodes left =>
        if nodes.any Tag.isInherit then .error (.fault .repeatedExtends) left
        else .ok [.inherit (Variable.ofString quoted)
          (Entries.ofList (nodes.filterMap Tag.namedBlock?))] left
      | .error error left => .error error left := by
  have hName : (Token.block opening).name? = some "extends" := by
    rw [Token.name?, hComponents]
    rfl
  show registry.parseBody (tokens.length + 1) (fun _ => false)
    (.block opening :: tokens) = _
  rw [registry.parseBody_of_goes_on rfl]
  simp only [bind, EStateM.bind, readNode, readBlock, hName, hExtends, Parser.ofExcept,
    Tag.run_readInherit hComponents]
  rw [show registry.parseBody tokens.length (fun _ => false) tokens =
    registry.parseAll tokens from rfl]
  cases hRest : registry.parseAll tokens with
  | error error left => rfl
  | ok nodes left =>
      have hNil : left = [] := registry.parseAll_leaves_nil hRest
      subst hNil
      cases hRepeats : nodes.any Tag.isInherit with
      | true => simp only [hRepeats, if_true]
      | false =>
          simp only [hRepeats, Bool.false_eq_true, if_false, pure, EStateM.pure,
            registry.parseBody_nil]
          rfl

end Registry

/-- A source parses to what its tokens are parsed to. -/
theorem Registry.parse_of_tokenize {registry : Registry} {source : String}
    (tokens : List Token) {nodes : List Node} {left : List Token}
    (hTokens : tokenize source = tokens)
    (hNodes : registry.parseAll tokens = .ok nodes left) :
    registry.parse source = .ok nodes := by
  rw [Registry.parse, hTokens, hNodes]

/-- The source of a derived template: it begins with `extends` and an operand, and the
tokens stand behind. -/
def Extends (source operand : String) (tokens : List Token) : Prop :=
  ∃ opening, tokenize source = .block opening :: tokens ∧
    (Token.block opening).components = ["extends", operand]

/-- The tree of a derived template is that of the tokens behind the name of its parent,
of which the blocks are kept. -/
theorem Environment.parse_extends {σ : Type} {env : Environment σ}
    (hExtends : env.registry.findTag "extends" = .ok Tag.readInherit)
    {source operand : String} {tokens : List Token}
    (hSource : Extends source operand tokens) :
    env.parse source =
      match env.registry.parseAll tokens with
      | .ok nodes _ =>
        if nodes.any Tag.isInherit then .error (.fault .repeatedExtends)
        else .ok [.inherit (Variable.ofString operand)
          (Entries.ofList (nodes.filterMap Tag.namedBlock?))]
      | .error error _ => .error error := by
  obtain ⟨opening, hTokens, hComponents⟩ := hSource
  rw [Environment.parse, Registry.parse, hTokens,
    Registry.parseAll_extends hExtends hComponents]
  cases env.registry.parseAll tokens with
  | error error left => rfl
  | ok nodes left =>
      by_cases hRepeats : nodes.any Tag.isInherit = true <;> simp [hRepeats]

/-- A template that begins with `extends` is one node: the name of its parent and
the blocks among the nodes that the rest of its tokens are parsed to, which
themselves parse. -/
theorem Environment.parse_of_extends {σ : Type} {env : Environment σ}
    (hExtends : env.registry.findTag "extends" = .ok Tag.readInherit)
    {source opening quoted : String} {tokens : List Token}
    (hTokens : tokenize source = .block opening :: tokens)
    (hComponents : (Token.block opening).components = ["extends", quoted])
    {nodes : List Node} (h : env.parse source = .ok nodes) :
    ∃ rest, env.registry.parseAll tokens = .ok rest [] ∧
      nodes = [.inherit (Variable.ofString quoted)
        (Entries.ofList (rest.filterMap Tag.namedBlock?))] := by
  rw [parse_extends hExtends ⟨opening, hTokens, hComponents⟩] at h
  cases hRest : env.registry.parseAll tokens with
  | error error left =>
      rw [hRest] at h
      cases h
  | ok rest left =>
      have hNil : left = [] := env.registry.parseAll_leaves_nil hRest
      subst hNil
      simp only [hRest] at h
      split at h
      · cases h
      · cases h
        exact ⟨rest, rfl, rfl⟩

end TextTemplate
