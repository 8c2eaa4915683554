import TextTemplate.Proofs.Parsing.Nesting
import TextTemplate.Proofs.Parsing.ParsedMarkup
import TextTemplate.Proofs.Text.Division

/-!
# What a block mentions

Whether a block mentions the body that it replaces is found out before its own body
is parsed, by counting `block` and `endblock` over the tokens that are left. The
parser finds the end of the body by descending into every tag. This module proves
that both stop at the same token, so that the answer is about the tokens of the body
and no others.

Tokens that parse are nested, and the count is the same behind nested tokens as in front
of them. This holds even where a loop ends at a divider that says more than its word,
because such a token is neither `block` nor `endblock`.

## Main results

* `Registry.usesSuper_iff` — a block mentions what it replaces exactly if an output or a
  block in its body contains `block.super`.
-/

namespace TextTemplate

namespace Tag

/-- Tokens mention the body that is replaced if an output or a block among them contains
its path. -/
private theorem any_mentionsSuper_iff {tokens : List Token} :
    tokens.any mentionsSuper = true ↔
      ∃ contents, (Token.output contents ∈ tokens ∨ .block contents ∈ tokens) ∧
      "block.super".toList <:+: contents.toList := by
  have hPath : "block.super" ≠ "" := by decide
  rw [List.any_eq_true]
  constructor
  · rintro ⟨token, hMem, hMentions⟩
    cases token with
    | output contents =>
        exact ⟨contents, .inl hMem, (Text.occurs_iff hPath).mp hMentions⟩
    | block contents =>
        exact ⟨contents, .inr hMem, (Text.occurs_iff hPath).mp hMentions⟩
    | text contents => cases hMentions
    | comment contents => cases hMentions
  · rintro ⟨contents, hMem | hMem, hPart⟩
    · exact ⟨.output contents, hMem, (Text.occurs_iff hPath).mpr hPart⟩
    · exact ⟨.block contents, hMem, (Text.occurs_iff hPath).mpr hPart⟩

end Tag

namespace Registry

/-- A block that is read, whatever it stands in, takes the tokens of its body and the
`endblock` behind them. It mentions what it replaces exactly if one of the outputs and
blocks among the tokens of its body contains `block.super`. -/
theorem usesSuper_iff {registry : Registry} (hStandard : registry.HasStandardTags)
    {token : Token} (hWord : token.word? = some "block") {queue rest : List Token}
    {node : Option Node}
    (h : registry.readNode registry.parseUntil token queue = .ok node rest) :
    ∃ block inside closing, node = some (.block block) ∧
      queue = inside ++ closing :: rest ∧
      closing.word? = some "endblock" ∧
      registry.parseUntil (Token.isNamed ["endblock"]) queue =
        .ok block.body (closing :: rest) ∧
      (block.usesSuper = true ↔
        ∃ contents, (.output contents ∈ inside ∨ .block contents ∈ inside) ∧
        "block.super".toList <:+: contents.toList) := by
  obtain ⟨reader, found, hFind, hRun, rfl⟩ := (readNode_eq_ok_iff hWord).mp h
  rw [hStandard.findTag_eq
    (by simp [standardTags] : ("block", Tag.readBlock) ∈ standardTags)] at hFind
  cases hFind
  obtain ⟨tag, name, body, closing, -, hBody, rfl⟩ :=
    Tag.run_readBlock_eq_ok_iff.mp hRun
  obtain ⟨inside, hQueue, hCloses, hAhead⟩ :=
    Tag.superAhead_eq_any (nests_parseUntil hStandard queue.length)
      (Nat.le_refl _) hBody
  have hUses : Tag.superAhead 0 queue = inside.any Tag.mentionsSuper := by
    rw [← hAhead [], List.append_nil]
  exact ⟨_, inside, closing, rfl, hQueue, hCloses,
    hBody, by rw [hUses, Tag.any_mentionsSuper_iff]⟩

/-- What an inner block mentions counts for the outer one, and what stands behind the
outer one does not. -/
theorem usesSuper_iff_of_inner :
    let parse := Registry.parseUntil [Extension.standard]
    let queue : List Token :=
      [.block "block inner", .block "include block.super", .block "endblock",
        .block "endblock", .output "block.super"]
    let inner : Block Node :=
      ⟨"inner", true, [.embed (Variable.ofString "block.super") none]⟩
    Registry.readNode [Extension.standard] parse (.block "block outer") queue =
        .ok (some (.block ⟨"outer", true, [.block inner]⟩)) [.output "block.super"] ∧
      ∃ block inside closing, some (Node.block ⟨"outer", true, [.block inner]⟩) =
        some (.block block) ∧
        queue = inside ++ closing :: [.output "block.super"] ∧
          closing.word? = some "endblock" ∧
        parse (Token.isNamed ["endblock"]) queue =
          .ok block.body (closing :: [.output "block.super"]) ∧
        (block.usesSuper = true ↔
          ∃ contents, (.output contents ∈ inside ∨ .block contents ∈ inside) ∧
          "block.super".toList <:+: contents.toList) := by
  intro parse queue inner
  have hStandard : Registry.HasStandardTags [Extension.standard] := fun _ => rfl
  have hMentions : Tag.mentionsSuper (.block "include block.super") = true := by cbv
  have hRead := Markup.readNode_opening hStandard
    (.block ⟨"block outer", "outer", by cbv⟩
      [.block ⟨"block inner", "inner", by cbv⟩ [.embed ⟨"include block.super",
        "block.super", none, by cbv⟩]])
    [.output "block.super"]
  simp only [Markup.tokensOf, Markup.opening, Markup.inner, Markup.nodesOf,
    Markup.node?, List.any_cons, List.any_append, hMentions, Bool.true_or, Bool.or_true]
    at hRead
  exact ⟨hRead, usesSuper_iff hStandard (by decide) hRead⟩

end Registry

end TextTemplate
