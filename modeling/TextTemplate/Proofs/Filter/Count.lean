import TextTemplate.Extension
import TextTemplate.Filter.Chain
import TextTemplate.Proofs.Token.Components

/-!
# The number of filters

A filter chain is divided at the bars outside phrases, and each run behind the first
should be a filter. But the division glues at marks, as it does between blanks: a run
that ends in a colon or a comma takes in the run behind the next bar, and so does a run
that is followed by nothing but marks. Such a run is no filter, and whether a filter of
its name exists is never asked.

## Main results

* `FilterChain.length_filters` — a chain has one filter for each run behind the first
  that is not glued.
-/

namespace TextTemplate.FilterChain

/-- Each piece that is compiled gives one filter. -/
private theorem length_of_mapM_compileFilter {find : FilterFinder}
    {pieces : List String} {filters : List AppliedFilter}
    (h : pieces.mapM (compileFilter find) = .ok filters) :
    filters.length = pieces.length := by
  induction pieces generalizing filters with
  | nil =>
      cases h
      rfl
  | cons piece rest ih =>
      rw [List.mapM_cons] at h
      cases hPiece : compileFilter find piece with
      | error error =>
          rw [hPiece] at h
          cases h
      | ok filter =>
          cases hRest : rest.mapM (compileFilter find) with
          | error error =>
              rw [hPiece, hRest] at h
              cases h
          | ok others =>
              rw [hPiece, hRest] at h
              cases h
              rw [List.length_cons, List.length_cons, ih hRest]

/-- A chain that is compiled has a filter for each component behind the first. -/
private theorem length_components_of_compile {find : FilterFinder} {source : String}
    {chain : FilterChain} (h : compile find source = .ok chain) :
    (components '|' source.toList).length = chain.filters.length + 1 := by
  have hPieces : ((splitPhrases '|' source).map Text.trim).length =
      (components '|' source.toList).length := by
    rw [List.length_map, splitPhrases, List.length_map]
  rw [← hPieces]
  unfold compile at h
  split at h
  · cases h
  · next base pieces hSplit =>
    cases hFilters : pieces.mapM (compileFilter find) with
    | error error =>
        rw [hFilters] at h
        cases h
    | ok filters =>
        rw [hFilters] at h
        cases h
        rw [hSplit, List.length_cons, length_of_mapM_compileFilter hFilters]

/-- The runs of a chain between bars outside phrases, where no phrase holds a quote of
the other kind: the first is the base, and each further one is a filter unless it is
glued to the one before, since that one ends in a mark or this one is a run of marks. So
all of them are filters exactly if none is glued. -/
theorem length_filters {find : FilterFinder} {source : String}
    (hUnmixed : Unmixed source.toList) {chain : FilterChain}
    (hCompiled : compile find source = .ok chain) :
    chain.filters.length + 1 + (seams (runs '|' source.toList)).countP
      (follows isMarkRun) =
        (runs '|' source.toList).length ∧
      (chain.filters.length + 1 = (runs '|' source.toList).length ↔
        ∀ seam ∈ seams (runs '|' source.toList),
          endsInMark seam.before = false ∧ isMarkRun seam.piece = false) := by
  have hBar : isQuote '|' = false := by decide
  have hCount : chain.filters.length + 1 + (seams (runs '|' source.toList)).countP
      (follows isMarkRun) = (runs '|' source.toList).length := by
    rw [← length_components_of_compile hCompiled, components_eq_grouped hBar,
      words_eq_runs hBar hUnmixed]
    exact length_grouped _
  refine ⟨hCount, ?_⟩
  have hNone : (seams (runs '|' source.toList)).countP (follows isMarkRun) = 0 ↔
      ∀ seam ∈ seams (runs '|' source.toList), endsInMark seam.before = false ∧
        isMarkRun seam.piece = false := by
    rw [List.countP_eq_zero]
    simp only [follows, Bool.not_eq_true, Bool.or_eq_false_iff]
  rw [← hNone]
  omega

/-- Bars inside phrases part no filters. -/
theorem length_filters_of_quoted_bars :
    let source := "'a|b'|join:\"x|y\" | uppercase"
    Unmixed source.toList ∧ ∃ chain,
      compile (Registry.findFilter [Extension.standard]) source = .ok chain ∧
      (∀ seam ∈ seams (runs '|' source.toList), endsInMark seam.before = false ∧
        isMarkRun seam.piece = false) ∧
      chain.filters.length + 1 = (runs '|' source.toList).length ∧
        chain.filters.length = 2 := by
  intro source
  have hUnmixed : Unmixed source.toList := by decide +kernel
  have hRuns : runs '|' source.toList = ["'a|b'".toList, "join:\"x|y\" ".toList,
      " uppercase".toList] := by
    decide +kernel
  have hSeams : ∀ seam ∈ seams (runs '|' source.toList),
      endsInMark seam.before = false ∧ isMarkRun seam.piece = false := by
    rw [hRuns]
    simp [seams, seamsFrom, endsInMark, isMark, isMarkRun]
  have hPieces : (splitPhrases '|' source).map Text.trim =
      ["'a|b'", "join:\"x|y\"", "uppercase"] := by decide
  have hCompiled : compile (Registry.findFilter [Extension.standard]) source =
      .ok ⟨source, Variable.ofString "'a|b'",
        [⟨.withArguments Filter.join, [Variable.ofString "\"x|y\""]⟩,
          ⟨.plain Filter.uppercase, []⟩]⟩ := by
    rw [compile, hPieces]
    rfl
  exact ⟨hUnmixed, _, hCompiled, hSeams,
    (length_filters hUnmixed hCompiled).2.mpr hSeams, rfl⟩

/-- Behind a colon without an argument the next filter is taken in. -/
theorem length_filters_ne_of_colon :
    let source := "name:|uppercase"
    Unmixed source.toList ∧ runs '|' source.toList =
      ["name:".toList, "uppercase".toList] ∧
      ∃ chain, compile (Registry.findFilter [Extension.standard]) source = .ok chain ∧
        chain.filters = [] ∧ chain.filters.length + 1 ≠
          (runs '|' source.toList).length := by
  intro source
  have hRuns : runs '|' source.toList = ["name:".toList, "uppercase".toList] := by
    decide +kernel
  have hPieces : (splitPhrases '|' source).map Text.trim =
      ["name:uppercase"] := by decide
  have hCompiled : compile (Registry.findFilter [Extension.standard]) source =
      .ok ⟨source, Variable.ofString "name:uppercase", []⟩ := by
    rw [compile, hPieces]
    rfl
  refine ⟨unmixed_of_unquoted (by simp [source, isQuote]), hRuns, _, hCompiled, rfl, ?_⟩
  rw [hRuns]
  decide

end TextTemplate.FilterChain
