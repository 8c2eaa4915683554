import TextTemplate.Proofs.Parsing.Extending
import TextTemplate.Proofs.Parsing.Readers
import TextTemplate.Proofs.Token.Printing
import TextTemplate.Proofs.Token.Words

/-!
# Naming a template in quotes

A tag names another template by a text in quotes. Blanks and dots inside the quotes
belong to the name, so any name can be given in this way that has no quote of the same
kind in it, nor the closing delimiter of the tag, which would end the tag wherever it
stands. This module follows such a name through the cutting of the source, the division
into components and the reading of literals, and gives the tree of a template that
consists of nothing but the name of its parent.

## Main results

* `components_named` — a word and a name in quotes.
* `tokenize_naming` — a source that is a single tag with a word and a name in quotes.
* `Environment.parse_emptyChild` — a template that only names a parent.
-/

namespace TextTemplate

open TextTemplate.Text

/-- A text between single quotes. -/
def inQuotes (text : String) : String :=
  "'" ++ text ++ "'"

/-- The source of a template that is derived from another one and replaces none of
its blocks. -/
def emptyChild (parent : String) : String :=
  "\x7b% extends " ++ inQuotes parent ++ " %\x7d"

theorem toList_inQuotes (text : String) :
    (inQuotes text).toList = '\'' :: (text.toList ++ ['\'']) := by
  simp [inQuotes]

/-! ## Components -/

/-- The components of a block that consists of a word and a name in quotes. -/
theorem components_named {word name : String} (hWord : word ≠ "")
    (hPlain : ∀ c ∈ word.toList, c ≠ ' ' ∧ isQuote c = false)
    (hMark : endsInMark word.toList = false) (hName : '\'' ∉ name.toList) :
    (Token.block (word ++ " " ++ inQuotes name)).components =
      [word, inQuotes name] := by
  have hWords := words_named (fun hNil => hWord (String.toList_eq_nil_iff.mp hNil))
    hPlain hName
  have hList : (word ++ " " ++ inQuotes name).toList =
      word.toList ++ ' ' :: '\'' :: (name.toList ++ ['\'']) := by
    simp [toList_inQuotes]
  have hRun : isMarkRun ('\'' :: (name.toList ++ ['\''])) = false := by simp [isMarkRun]
  rw [Token.components, Token.contents, splitPhrases, hList, components, hWords]
  simp [glue, hMark, hRun, inQuotes, String.append_assoc]

/-- A text in quotes is a literal. -/
private theorem Variable.literal?_inQuotes (text : String) :
    Variable.literal? (inQuotes text) = some (.string text) := by
  simp [Variable.literal?, toList_inQuotes, Variable.unquote?]

theorem Variable.resolve_inQuotes (text : String) (scopes : Scopes) :
    (Variable.ofString (inQuotes text)).resolve scopes = .string text := by
  rw [Variable.ofString, literal?_inQuotes]
  rfl

/-! ## A tag that names a template -/

/-- No closing delimiter begins in front of a text if no mark stands there. -/
private theorem not_closing_infix {front text : List Char}
    (hFront : ∀ c ∈ front, c ≠ '%') (h : ¬ Delimiter.block.closing <:+: text) :
    ¬ Delimiter.block.closing <:+: front ++ text := by
  induction front with
  | nil => exact h
  | cons c front ih =>
      rw [List.forall_mem_cons] at hFront
      rw [List.cons_append, List.infix_cons_iff]
      rintro (⟨rest, hPrefix⟩ | hInfix)
      · have hMark := List.head_eq_of_cons_eq hPrefix
        exact hFront.1 hMark.symm
      · exact ih hFront.2 hInfix

/-- The one token of a source that is a word and a name in quotes between the delimiters
of a block. -/
theorem tokenize_naming {word name : String} (hWord : word ≠ "")
    (hPlain : ∀ c ∈ word.toList, c ≠ '%' ∧ isBlank c = false)
    (hClosing : ¬ Delimiter.block.closing <:+: name.toList) :
    tokenize ("\x7b% " ++ word ++ " " ++ inQuotes name ++ " %\x7d") =
      [.block (word ++ " " ++ inQuotes name)] := by
  let contents := word ++ " " ++ inQuotes name
  have hList : contents.toList = (word.toList ++ " '".toList) ++ name.toList ++
      ['\''] := by
    simp [contents, toList_inQuotes]
  -- No other part of the block can belong to a closing delimiter.
  have hInner : ¬ Delimiter.block.closing <:+: contents.toList := by
    have hFront : ∀ c ∈ word.toList ++ " '".toList, c ≠ '%' := by
      rw [List.forall_mem_append]
      exact ⟨fun c hMem => (hPlain c hMem).1, by simp⟩
    rw [hList, List.infix_concat_iff]
    rintro (⟨before, hBefore⟩ | hInfix)
    · have hLast := congrArg List.getLast? hBefore
      rw [Delimiter.closing, List.getLast?_append, List.getLast?_concat] at hLast
      cases hLast
    · exact not_closing_infix hFront hClosing hInfix
  have hTrim : trim contents = contents := by
    refine trim_eq_self (fun c hFirst => ?_) fun c hLast => ?_
    · cases hChars : word.toList with
      | nil => exact absurd (String.toList_eq_nil_iff.mp hChars) hWord
      | cons first rest =>
          have hSame : first = c := by simpa [hList, hChars] using hFirst
          rw [← hSame]
          exact (hPlain first (hChars ▸ List.mem_cons_self)).2
    · rw [hList, List.getLast?_concat, Option.some.injEq] at hLast
      rw [← hLast]
      decide
  have hSource : "\x7b% " ++ word ++ " " ++ inQuotes name ++ " %\x7d" =
      Token.printAll [.block contents] := by
    simp [contents, Token.printAll, Token.print, String.append_assoc]
  have hPrinted : (Token.block contents).WellPrinted := ⟨hTrim, hInner⟩
  rw [hSource, tokenize_printAll (Token.allWellPrinted_singleton hPrinted)]

/-! ## A template without blocks of its own -/

variable {σ : Type} {env : Environment σ} {parent : String}

/-- The one token of a template that only names a parent. -/
private theorem tokenize_emptyChild
    (hClosing : ¬ Delimiter.block.closing <:+: parent.toList) :
    tokenize (emptyChild parent) = [.block ("extends" ++ " " ++ inQuotes parent)] := by
  have hTokens := tokenize_naming (by decide : "extends" ≠ "")
    (by simp [isBlank]) hClosing
  simpa [emptyChild] using hTokens

/-- A template that only names a parent parses to that name, without blocks. -/
theorem Environment.parse_emptyChild (hStandard : env.registry.HasStandardTags)
    (hQuote : '\'' ∉ parent.toList)
    (hClosing : ¬ Delimiter.block.closing <:+: parent.toList) :
    env.parse (emptyChild parent) =
      .ok [.inherit (Variable.ofString (inQuotes parent)) []] := by
  have hComponents := components_named (by decide : "extends" ≠ "") (by simp [isQuote])
    (by decide) hQuote
  rw [Environment.parse_extends hStandard.findTag_extends ⟨_,
    tokenize_emptyChild hClosing, hComponents⟩]
  rfl

end TextTemplate
