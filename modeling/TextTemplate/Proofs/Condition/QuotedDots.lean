import Mathlib.Data.List.Basic
import TextTemplate.Extension
import TextTemplate.Proofs.Condition.Terms
import TextTemplate.Proofs.Text.Blank
import TextTemplate.Proofs.Token.Words

/-!
# Dots inside quotes

Quotes are there so that anything can stand in a text, and a filter chain is divided at
the bars outside quotes only. Whether an operand is a range is decided before that, and
without an eye on quotes: it is one if three dots divide it into exactly two parts. So a
text in quotes may have three dots in it at no place or at several, and is a literal;
with three dots at one place it is a range between two names.

## Main results

* `Operand.compile_eq_filtered_iff` — when an operand is compiled as a filter chain.
* `Operand.compile_phrase` — what a text in quotes is compiled to.
* `Operand.compile_dotsQuoted` — operands that have three dots in phrases only.
-/

namespace TextTemplate

open TextTemplate.Text

/-! ## Dots and phrases -/

/-- What stands between the bounds of a range. -/
def dots : List Char := ['.', '.', '.']

theorem toList_dots : "...".toList = dots := rfl

/-- A phrase is open where the text ends. -/
def EndsInPhrase (cs : List Char) : Prop :=
  ∃ before quote contents, stretches cs = before ++ [.phrase quote contents false]

/-- Wherever three dots stand side by side, a phrase is open. -/
def DotsQuoted (cs : List Char) : Prop :=
  ∀ before after, cs = before ++ (dots ++ after) → EndsInPhrase before

theorem notMem_dots {quote : Char} (hQuote : isQuote quote = true) : quote ∉ dots := by
  intro hMem
  have hDot : quote = '.' := by simpa [dots] using hMem
  rw [hDot] at hQuote
  cases hQuote

/-- All dots of a phrase are in it. -/
theorem dotsQuoted_phrase {quote : Char} (hQuote : isQuote quote = true)
    {contents : List Char} (hContents : quote ∉ contents) :
    DotsQuoted (quote :: (contents ++ [quote])) := by
  intro before after h
  cases before with
  | nil =>
      have hMem : quote ∈ dots := by
        rw [(List.cons.inj h).1]
        exact List.mem_cons_self
      exact absurd hMem (notMem_dots hQuote)
  | cons first rest =>
      obtain ⟨rfl, hRest⟩ := List.cons.inj h
      obtain ⟨behind, -, rfl⟩ :=
        exists_of_concat_eq (notMem_dots hQuote) (by decide) hRest
      have hNot : quote ∉ rest := fun hMem => hContents (List.mem_append_left _ hMem)
      exact ⟨[], quote, rest, stretches_unclosed hQuote hNot⟩

/-- Three dots divide a phrase as they divide its contents. -/
private theorem length_divideText_phrase {quote : Char} (hQuote : isQuote quote = true)
    (contents : List Char) :
    (divideText "..." (String.ofList (quote :: (contents ++ [quote])))).length =
      (divideText "..." (String.ofList contents)).length := by
  rw [divideText, divideText, List.length_map, List.length_map, toList_dots,
    String.toList_ofList, String.toList_ofList,
    length_divide_cons_of_notMem (notMem_dots hQuote) (by decide),
    length_divide_concat_of_notMem (notMem_dots hQuote) (by decide)]

/-! ## Ranges and chains -/

namespace RangeExpression

/-- No range is a text. -/
theorem resolve_ne_string (range : RangeExpression) (maxRange : Nat) (scopes : Scopes)
    (text : String) :
    range.resolve maxRange scopes ≠ .ok (.string text) := by
  intro h
  unfold resolve at h
  cases hLower : range.lower.resolve scopes with
  | error error =>
      rw [hLower] at h
      cases h
  | ok lower =>
      cases hUpper : range.upper.resolve scopes with
      | error error =>
          rw [hLower, hUpper] at h
          cases lower <;> cases h
      | ok upper =>
          rw [hLower, hUpper] at h
          cases lower <;> cases upper <;> try cases h
          rename_i first last
          have hBetween : between maxRange first last = .ok (.string text) := h
          unfold between at hBetween
          split at hBetween <;> cases hBetween

end RangeExpression

namespace Operand

variable {find : FilterFinder} {source : String}

theorem compile_of_divided {lower upper : String}
    (h : divideText "..." source = [lower, upper]) :
    compile find source = (do
      let lower ← FilterChain.compile find lower
      let upper ← FilterChain.compile find upper
      return between ⟨lower, upper⟩) := by
  unfold compile RangeExpression.compile?
  simp only [h]
  cases FilterChain.compile find lower with
  | error error => rfl
  | ok lowerChain => cases FilterChain.compile find upper <;> rfl

theorem compile_of_undivided (h : (divideText "..." source).length ≠ 2) :
    compile find source = (FilterChain.compile find source).map filtered := by
  have hNone : RangeExpression.compile? find source = .ok none := by
    unfold RangeExpression.compile?
    split
    · rename_i lower upper hDivided
      rw [hDivided] at h
      exact absurd rfl h
    · rfl
  rw [compile, hNone]
  cases FilterChain.compile find source <;> rfl

/-- What two parts are compiled to is a range. -/
theorem exists_between_of_compile (hLength : (divideText "..." source).length = 2)
    {operand : Operand} (h : compile find source = .ok operand) :
    ∃ range, operand = between range := by
  obtain ⟨lower, upper, hDivided⟩ := List.length_eq_two.mp hLength
  rw [compile_of_divided hDivided] at h
  cases hLower : FilterChain.compile find lower with
  | error error =>
      rw [hLower] at h
      cases h
  | ok lowerChain =>
      cases hUpper : FilterChain.compile find upper with
      | error error =>
          rw [hLower, hUpper] at h
          cases h
      | ok upperChain =>
          rw [hLower, hUpper] at h
          cases h
          exact ⟨_, rfl⟩

/-- A text is compiled as a chain exactly if three dots do not divide it into two parts,
or if it comes to the same error either way. -/
theorem compile_eq_filtered_iff :
    compile find source = (FilterChain.compile find source).map filtered ↔
      (divideText "..." source).length ≠ 2 ∨
        ∃ error, compile find source = .error error ∧
          FilterChain.compile find source = .error error := by
  constructor
  · intro h
    by_cases hLength : (divideText "..." source).length = 2
    · cases hChain : FilterChain.compile find source with
      | error error =>
          rw [hChain] at h
          exact .inr ⟨error, h, rfl⟩
      | ok chain =>
          rw [hChain] at h
          obtain ⟨range, hRange⟩ := exists_between_of_compile hLength h
          cases hRange
    · exact .inl hLength
  · rintro (hLength | ⟨error, hCompile, hChain⟩)
    · exact compile_of_undivided hLength
    · rw [hCompile, hChain]
      rfl

end Operand

/-! ## Texts in quotes -/

section Phrase

variable {find : FilterFinder} {quote : Char} (hQuote : isQuote quote = true)
  {contents : List Char}

include hQuote

theorem eq_single_or_double : quote = '\'' ∨ quote = '"' := by
  simpa [isQuote] using hQuote

/-- A text in quotes of either kind is a literal. -/
private theorem Variable.ofString_phrase :
    Variable.ofString (String.ofList (quote :: (contents ++ [quote]))) =
      ⟨String.ofList (quote :: (contents ++ [quote])),
        .literal (.string (String.ofList contents))⟩ := by
  have hLiteral : Variable.literal? (String.ofList (quote :: (contents ++ [quote]))) =
      some (.string (String.ofList contents)) := by
    rcases eq_single_or_double hQuote with rfl | rfl <;>
      simp [Variable.literal?, Variable.unquote?]
  rw [Variable.ofString, hLiteral]

/-- A chain that is a text in quotes has no filters. -/
theorem FilterChain.compile_phrase (hContents : quote ∉ contents) :
    FilterChain.compile find (String.ofList (quote :: (contents ++ [quote]))) =
      .ok ⟨String.ofList (quote :: (contents ++ [quote])),
        Variable.ofString (String.ofList (quote :: (contents ++ [quote]))), []⟩ := by
  have hBlank : isBlank quote = false := by
    rcases eq_single_or_double hQuote with rfl | rfl <;> decide
  have hTrim : trim (String.ofList (quote :: (contents ++ [quote]))) =
      String.ofList (quote :: (contents ++ [quote])) := by
    refine trim_eq_self (fun c hFirst => ?_) fun c hLast => ?_
    · rw [String.toList_ofList, List.head?_cons, Option.some.injEq] at hFirst
      rwa [← hFirst]
    · rw [String.toList_ofList, ← List.cons_append, List.getLast?_concat,
        Option.some.injEq] at hLast
      rwa [← hLast]
  have hWords := words_phrase (by decide : isQuote '|' = false) hQuote hContents
  unfold compile
  rw [splitPhrases, String.toList_ofList, components, hWords]
  simp only [List.foldl_cons, List.foldl_nil, glue, List.reverse_singleton,
    List.map_cons, List.map_nil, hTrim]
  rfl

/-- No operator begins with a quote. -/
private theorem Term.ofComponent_phrase :
    Term.ofComponent find (String.ofList (quote :: (contents ++ [quote]))) =
      (Operand.compile find (String.ofList (quote :: (contents ++ [quote])))).map
        Term.atom := by
  refine Term.ofComponent_of_notMem fun hMem => ?_
  have hWords : ∀ word ∈ Condition.operatorWords, word.toList.head?.any isQuote =
      false := by decide
  have hNone := hWords _ hMem
  rw [String.toList_ofList, List.head?_cons, Option.any_some, hQuote] at hNone
  cases hNone

/-- The operand of a text in quotes: the literal, unless three dots divide the text into
two parts, and then a range, which never has the text as its value. -/
theorem Operand.compile_phrase (hContents : quote ∉ contents) :
    ((divideText "..." (String.ofList contents)).length ≠ 2 →
      ∃ operand, compile find (String.ofList (quote :: (contents ++ [quote]))) =
        .ok operand ∧
        ∀ maxRange scopes, operand.resolve maxRange scopes =
          .ok (.string (String.ofList contents))) ∧
    ((divideText "..." (String.ofList contents)).length = 2 →
      ∀ operand, compile find (String.ofList (quote :: (contents ++ [quote]))) =
        .ok operand →
        ∀ maxRange scopes, operand.resolve maxRange scopes ≠
          .ok (.string (String.ofList contents))) := by
  rw [← length_divideText_phrase hQuote]
  refine ⟨fun hLength => ?_, fun hLength operand hCompile maxRange scopes => ?_⟩
  · have hChain := @FilterChain.compile_phrase find quote hQuote contents hContents
    refine ⟨_, (compile_of_undivided hLength).trans (by rw [hChain]; rfl),
      fun maxRange scopes => ?_⟩
    rw [Variable.ofString_phrase hQuote]
    rfl
  · obtain ⟨range, rfl⟩ := exists_between_of_compile hLength hCompile
    exact range.resolve_ne_string maxRange scopes _

end Phrase

/-! ## Operands whose dots are quoted -/

/-- Operands in which three dots stand in phrases only. Such an operand is compiled as a
filter chain, to the same chain or the same error, unless the dots divide it into
exactly two parts; then it is compiled as a range, although a phrase is open where its
lower bound ends, and the two come to the same only if they fail with the same error. So
a text in quotes, which is never read as an operator, has the text as its value wherever
it stands for an operand, unless three dots divide it into exactly two parts, and then
it never has. -/
theorem Operand.compile_dotsQuoted (find : FilterFinder) :
    (∀ source, DotsQuoted source.toList →
      (compile find source = (FilterChain.compile find source).map filtered ↔
        (divideText "..." source).length ≠ 2 ∨
          ∃ error, compile find source = .error error ∧
            FilterChain.compile find source = .error error) ∧
      ∀ lower upper, divideText "..." source = [lower, upper] →
        EndsInPhrase lower.toList ∧
        compile find source = (do
          let lower ← FilterChain.compile find lower
          let upper ← FilterChain.compile find upper
          return between ⟨lower, upper⟩)) ∧
    ∀ quote contents, isQuote quote = true → quote ∉ contents →
      let source := String.ofList (quote :: (contents ++ [quote]))
      DotsQuoted source.toList ∧
        Term.ofComponent find source = (compile find source).map Term.atom ∧
      ((divideText "..." (String.ofList contents)).length ≠ 2 →
        ∃ operand, compile find source = .ok operand ∧
        ∀ maxRange scopes, operand.resolve maxRange scopes =
          .ok (.string (String.ofList contents))) ∧
      ((divideText "..." (String.ofList contents)).length = 2 →
        ∀ operand, compile find source = .ok operand →
        ∀ maxRange scopes, operand.resolve maxRange scopes ≠
          .ok (.string (String.ofList contents))) := by
  refine ⟨fun source hDots => ⟨compile_eq_filtered_iff, fun lower upper hDivided => ?_⟩,
    fun quote contents hQuote hContents => ?_⟩
  · have hSource : source.toList = lower.toList ++ (dots ++ upper.toList) := by
      rw [eq_of_divideText (by decide) hDivided, String.toList_append,
        String.toList_append, List.append_assoc, toList_dots]
    exact ⟨hDots lower.toList upper.toList hSource, compile_of_divided hDivided⟩
  · refine ⟨?_, Term.ofComponent_phrase hQuote, compile_phrase hQuote hContents⟩
    rw [String.toList_ofList]
    exact dotsQuoted_phrase hQuote hContents

/-- Dots at two places, inside double quotes and next to a single one. -/
theorem Operand.compile_dotsQuoted_of_two_places :
    let source := "\"it's 1...2...3\""
    DotsQuoted source.toList ∧ ∃ operand,
      compile (Registry.findFilter [Extension.standard]) source = .ok operand ∧
      operand.resolve 100000 [] = .ok (.string "it's 1...2...3") := by
  intro source
  have hFirst : cutAt dots "it's 1...2...3".toList =
      some ("it's 1".toList, "2...3".toList) := by decide
  have hSecond : cutAt dots "2...3".toList = some (['2'], ['3']) := by decide
  have hTwice : (divideText "..." "it's 1...2...3").length = 3 := by
    rw [divideText, toList_dots, divide_of_cutAt_eq_some hFirst,
      divide_of_cutAt_eq_some hSecond, divide_of_cutAt_eq_none (by decide)]
    rfl
  obtain ⟨hDots, -, hLiteral, -⟩ :=
    (compile_dotsQuoted (Registry.findFilter [Extension.standard])).2 '"'
    "it's 1...2...3".toList rfl (by decide)
  have hLength : (divideText "..." (String.ofList "it's 1...2...3".toList)).length ≠
      2 := by
    rw [String.ofList_toList, hTwice]
    decide
  obtain ⟨operand, hCompile, hResolve⟩ := hLiteral hLength
  exact ⟨hDots, operand, hCompile, hResolve 100000 []⟩

/-- Dots at one place inside quotes make a range of names that begin and end with
a quote. -/
theorem Operand.compile_ne_filtered_of_quoted_dots :
    let find := Registry.findFilter [Extension.standard]
    let source := "'a...b'"
    DotsQuoted source.toList ∧
      compile find source ≠ (FilterChain.compile find source).map filtered ∧
      ∃ operand, compile find source = .ok operand ∧
        ∀ maxRange scopes, operand.resolve maxRange scopes ≠ .ok (.string "a...b") := by
  intro find source
  have hQuoted : source.toList = '\'' :: ("a...b".toList ++ ['\'']) := by decide
  have hDots : DotsQuoted source.toList := by
    rw [hQuoted]
    exact dotsQuoted_phrase rfl (by decide)
  have hCut : cutAt dots source.toList = some ("'a".toList, "b'".toList) := by decide
  have hDivided : divideText "..." source = ["'a", "b'"] := by
    rw [divideText, toList_dots, divide_of_cutAt_eq_some hCut,
      divide_of_cutAt_eq_none (by decide)]
    rfl
  have hLower : (splitPhrases '|' "'a").map trim = ["'a"] := by decide
  have hUpper : (splitPhrases '|' "b'").map trim = ["b'"] := by decide
  have hCompile : compile find source =
      .ok (between ⟨⟨"'a", Variable.ofString "'a", []⟩,
        ⟨"b'", Variable.ofString "b'", []⟩⟩) := by
    rw [compile_of_divided hDivided]
    unfold FilterChain.compile
    rw [hLower, hUpper]
    rfl
  refine ⟨hDots, fun hSame => ?_, _, hCompile,
    fun maxRange scopes => RangeExpression.resolve_ne_string _ _ _ _⟩
  rw [compile_eq_filtered_iff, hDivided, hCompile] at hSame
  simp at hSame

end TextTemplate
