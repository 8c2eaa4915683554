import TextTemplate.Proofs.Token.Words

/-!
# Runs and words

A division should make one word of each run between the separators outside phrases. It
knows them by the quote that would close the current phrase; besides, it counts the
quotes of both kinds, those inside phrases of the other kind included, and does not
end the word while both counts are odd. The text before the separator is then called
entangled. The separator is dropped all the same, so the runs on its two sides are
tied together.

## Main results

* `words_eq_tied` — the words of a text are its runs, tied together at entangled seams.
* `words_eq_runs` — where no phrase holds a quote of the other kind the words are
  the runs.
-/

namespace TextTemplate

/-- Pieces behind a text, each tied to the one before it where the text before it
is entangled. -/
def tied (before : List Char) (pieces : List (List Char)) : List (List Char) :=
  grouped (fun seam => entangled seam.before) before pieces

/-- Whether no quote of the other kind stands inside a phrase. -/
def Stretch.isUnmixed : Stretch → Bool
  | free _ => true
  | phrase quote contents _ => contents.all fun c => c == quote || !isQuote c

/-- No phrase of the text holds a quote of the other kind. -/
def Unmixed (cs : List Char) : Prop :=
  ∀ stretch ∈ stretches cs, stretch.isUnmixed = true

instance (cs : List Char) : Decidable (Unmixed cs) :=
  inferInstanceAs (Decidable (∀ stretch ∈ stretches cs, stretch.isUnmixed = true))

/-! ## Words -/

section Division

open WordState (behind)

variable {separator : Char} {before word : List Char}

/-- Behind an entangled text a piece that follows makes no difference to where the
word ends. -/
private theorem tied_prepend (hEntangled : entangled (before ++ word) = true)
    (piece : List Char) (rest : List (List Char)) :
    tied before (word :: piece :: rest) = tied before ((word ++ piece) :: rest) := by
  rw [tied, tied, grouped, grouped, groupFrom, if_pos hEntangled, List.append_assoc]

private theorem tied_apart (hEntangled : entangled (before ++ word) = false)
    (pieces : List (List Char)) :
    tied before (word :: pieces) = word :: tied (before ++ word) pieces := by
  cases pieces with
  | nil => rfl
  | cons piece rest =>
      rw [tied, tied, grouped, grouped, groupFrom, if_neg (by simp [hEntangled])]

/-- Of a word and the piece behind it, the empty ones left out, the piece goes on with
the word where there is no word or what stands before the piece is entangled. -/
private theorem tied_filter_cons (before word piece : List Char)
    (pieces : List (List Char)) :
    tied before ((word :: piece :: pieces).filter fun run => !run.isEmpty) =
      if word = [] ∨ entangled (before ++ word) = true then
        tied before (((word ++ piece) :: pieces).filter fun run => !run.isEmpty)
      else word :: tied (before ++ word)
        ((piece :: pieces).filter fun run => !run.isEmpty) := by
  by_cases hWord : word = []
  · rw [if_pos (.inl hWord), hWord, List.nil_append]
    rfl
  · rw [filter_cons_of_ne_nil hWord]
    cases hEntangled : entangled (before ++ word)
    · rw [if_neg (by simp [hWord]), tied_apart hEntangled]
    · rw [if_pos (.inr rfl),
        filter_cons_of_ne_nil (List.append_ne_nil_of_left_ne_nil hWord piece)]
      by_cases hPiece : piece = []
      · simp [hPiece]
      · rw [filter_cons_of_ne_nil hPiece, tied_prepend hEntangled]

theorem flatten_tied (before : List Char) (pieces : List (List Char)) :
    (tied before pieces).flatten = pieces.flatten :=
  flatten_grouped before pieces

/-- From a word in the making on, a division gives the runs with the word in front of
the first one, tied together at entangled seams. -/
private theorem wordsFrom_eq_tied (hSeparator : isQuote separator = false)
    (before word cs : List Char) :
    wordsFrom separator (behind (before ++ word) none word) cs =
      tied before (((divided separator cs).modifyHead (word ++ ·)).filter
        fun run => !run.isEmpty) := by
  induction cs using @division_induction separator generalizing before word with
  | nil =>
      rw [divided_nil, wordsFrom]
      cases word <;> simp [behind, tied, grouped, groupFrom]
  | separated rest ih =>
      have hFresh := ih (before ++ word) []
      have hGoesOn := ih before word
      obtain ⟨piece, pieces, hPieces⟩ := exists_divided separator rest
      rw [hPieces, List.modifyHead_cons] at hFresh hGoesOn
      rw [List.append_nil, List.nil_append] at hFresh
      rw [wordsFrom_separated hSeparator, divided_separator hSeparator, hPieces,
        List.modifyHead_cons, List.append_nil, hFresh, hGoesOn, tied_filter_cons]
  | passed stretch h rest ih =>
      have hRest := ih before (word ++ stretch.chars)
      rw [wordsFrom_passed hSeparator h, List.append_assoc, hRest, h.whole,
        List.modifyHead_modifyHead]
      congr 3
      funext piece
      exact List.append_assoc word stretch.chars piece
  | unclosed quote contents hQuote hNot =>
      rw [wordsFrom_unclosed hSeparator hQuote hNot, divided_unclosed hQuote hNot]
      simp [tied, grouped, groupFrom]

/-- The words of a text are its runs, tied together at entangled seams. -/
theorem words_eq_tied (hSeparator : isQuote separator = false) (cs : List Char) :
    words separator cs = tied [] (runs separator cs) := by
  obtain ⟨piece, pieces, hPieces⟩ := exists_divided separator cs
  have hWords := wordsFrom_eq_tied hSeparator [] [] cs
  rw [hPieces, List.modifyHead_cons, List.nil_append] at hWords
  rw [words, runs, hPieces]
  exact hWords

end Division

/-! ## Texts without mixed quotes -/

section Unmixed

variable {separator : Char}

theorem Unmixed.of_separated (hSeparator : isQuote separator = false) {rest : List Char}
    (h : Unmixed (separator :: rest)) : Unmixed rest := by
  rw [Unmixed, stretches_free hSeparator] at h
  exact (List.forall_mem_cons.mp h).2

theorem Unmixed.of_passed {stretch : Stretch} (hPasses : stretch.Passes separator)
    {rest : List Char} (h : Unmixed (stretch.chars ++ rest)) :
    Balanced stretch.chars ∧ Unmixed rest := by
  rw [Unmixed, stretches_passed hPasses] at h
  obtain ⟨hStretch, hRest⟩ := List.forall_mem_cons.mp h
  refine ⟨?_, hRest⟩
  cases stretch with
  | free c => exact balanced_unquoted (List.forall_mem_singleton.mpr hPasses.1)
  | phrase quote contents closed =>
      obtain ⟨hQuote, hNot, rfl⟩ := hPasses
      refine balanced_closed fun c hMem => ?_
      have hOther : (c == quote) = false :=
        beq_false_of_ne (ne_of_mem_of_not_mem hMem hNot)
      simpa [hOther] using List.all_eq_true.mp hStretch c hMem

/-- In front of each separator outside phrases both kinds of quotes are even. -/
private theorem balanced_before (hSeparator : isQuote separator = false)
    {cs : List Char} (h : Unmixed cs) {before piece : List Char}
    {pieces : List (List Char)} (hBefore : Balanced before)
    (hPieces : divided separator cs = piece :: pieces) :
    ∀ seam ∈ seamsFrom (before ++ piece) (pieces.filter fun run => !run.isEmpty),
      Balanced seam.before := by
  induction cs using @division_induction separator generalizing before piece pieces with
  | nil =>
      rw [divided_nil, List.cons.injEq] at hPieces
      rw [← hPieces.2]
      exact fun _ hMem => absurd hMem List.not_mem_nil
  | separated rest ih =>
      obtain ⟨next, others, hNext⟩ := exists_divided separator rest
      have hRest := ih (h.of_separated hSeparator) hBefore hNext
      rw [divided_separator hSeparator, List.cons.injEq] at hPieces
      rw [← hPieces.1, ← hPieces.2, hNext, List.append_nil]
      by_cases hEmpty : next = []
      · simpa [hEmpty] using hRest
      · rw [filter_cons_of_ne_nil hEmpty]
        exact List.forall_mem_cons.mpr ⟨hBefore, hRest⟩
  | passed stretch hPasses rest ih =>
      obtain ⟨next, others, hNext⟩ := exists_divided separator rest
      obtain ⟨hBalanced, hUnmixed⟩ := h.of_passed hPasses
      have hRest := ih hUnmixed (hBefore.append hBalanced) hNext
      rw [hPasses.whole, hNext, List.modifyHead_cons, List.cons.injEq] at hPieces
      rw [← hPieces.1, ← hPieces.2, ← List.append_assoc]
      exact hRest
  | unclosed quote contents hQuote hNot =>
      rw [divided_unclosed hQuote hNot, List.cons.injEq] at hPieces
      rw [← hPieces.2]
      exact fun _ hMem => absurd hMem List.not_mem_nil

/-- Where no phrase holds a quote of the other kind, no seam between runs is
entangled. -/
private theorem not_entangled_of_unmixed (hSeparator : isQuote separator = false)
    {cs : List Char} (h : Unmixed cs) :
    ∀ seam ∈ seams (runs separator cs), entangled seam.before = false := by
  obtain ⟨piece, pieces, hPieces⟩ := exists_divided separator cs
  have hBalanced := balanced_before hSeparator h balanced_nil hPieces
  intro seam hMem
  refine (hBalanced seam ?_).not_entangled
  rw [runs, hPieces] at hMem
  rw [List.nil_append]
  by_cases hEmpty : piece = []
  · rw [hEmpty, List.filter_cons_of_neg (by simp)] at hMem
    rw [hEmpty]
    generalize pieces.filter (fun run => !run.isEmpty) = kept at hMem
    cases kept with
    | nil => exact hMem
    | cons first rest => exact List.mem_cons_of_mem _ hMem
  · rwa [filter_cons_of_ne_nil hEmpty, seams] at hMem

/-- Where no phrase holds a quote of the other kind the words are the runs. -/
theorem words_eq_runs (hSeparator : isQuote separator = false) {cs : List Char}
    (h : Unmixed cs) :
    words separator cs = runs separator cs := by
  rw [words_eq_tied hSeparator, tied]
  exact (grouped_eq_self_iff ne_nil_of_mem_runs).mpr
    (not_entangled_of_unmixed hSeparator h)

end Unmixed

end TextTemplate
