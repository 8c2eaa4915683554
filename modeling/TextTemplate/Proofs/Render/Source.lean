import TextTemplate.Proofs.Parsing.Readers
import TextTemplate.Render.Nodes

/-!
# From a source to its text

A template that consists of a single tag is the node that the tag reads off the tokens
behind its own, and what cannot be parsed is not rendered.
-/

namespace TextTemplate

variable {σ : Type}

namespace Registry

variable {registry : Registry}

/-- A template that is a single tag parses to what the tag reads. -/
theorem parse_of_tag (outcome : Except Error Node) (left : List Token)
  {source contents word : String}
    {tokens : List Token} {reader : TagReader} {components : List String}
    (hTokens : tokenize source = .block contents :: tokens)
    (hComponents : (Token.block contents).components = word :: components)
    (hFind : registry.findTag word = .ok reader)
    (hRun : (reader registry.findFilter (.block contents)).run
      registry.parseUntil tokens =
      match outcome with
      | .ok node => .ok node []
      | .error error => .error error left) :
    registry.parse source = outcome.map fun node => [node] := by
  have hNode := readNode_of_findTag (Token.word?_of_components hComponents) hFind
    registry.parseUntil tokens
  have hAll : registry.parseAll (.block contents :: tokens) =
      match outcome with
      | .ok node => .ok [node] []
      | .error error => .error error left := by
    show registry.parseUntil (fun _ => false) (.block contents :: tokens) = _
    rw [registry.parseUntil_cons rfl]
    simp only [bind, EStateM.bind, hNode, hRun]
    cases outcome <;> rfl
  rw [parse, hTokens, hAll]
  cases outcome <;> rfl

end Registry

namespace Environment

variable {env : Environment σ}

/-- Parses a source and renders it in a context. -/
def renderSource (env : Environment σ) (source : String) : Render σ String := do
  env.render (← Render.ofExcept (env.parse source))

theorem renderSource_of_parse_error {source : String} {error : Error}
    (h : env.parse source = .error error) (context : Context σ) :
    env.renderSource source context = .error error context := by
  rw [renderSource, h]
  rfl

theorem renderSource_of_parse {source : String} {nodes : List Node}
    (h : env.parse source = .ok nodes) (context : Context σ) :
    env.renderSource source context = env.render nodes context := by
  rw [renderSource, h]
  rfl

end Environment

end TextTemplate
