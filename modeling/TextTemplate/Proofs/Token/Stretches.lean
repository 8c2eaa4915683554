import TextTemplate.Proofs.List
import TextTemplate.Proofs.Token.Grouping
import TextTemplate.Token.Phrase

/-!
# Stretches of a text

Quotes divide a text into stretches: phrases with their quotes, and the single
characters outside phrases. A phrase opens at a quote outside phrases and runs through
the next quote of the same kind; without one it runs to the end of the text. So the
separators outside phrases are known before any word is made. Between them stand the
runs of the text.

## Main results

* `division_induction` — induction along the separators and stretches of a text.
* `flatMap_stretches` — the stretches hold all of the text.
* `flatten_runs` — the runs hold all but the separators outside phrases.
* `sealed_divided`, `Sealed.runs_intercalate` — runs with single separators between them
  are divided at these.
-/

namespace TextTemplate

/-- A stretch of a text. -/
inductive Stretch where
  /-- A character outside phrases. -/
  | free (c : Char)
  /-- A phrase, which ends with the quote that opened it or, not closed, with the
  text. -/
  | phrase (quote : Char) (contents : List Char) (closed : Bool)
  deriving DecidableEq

namespace Stretch

/-- The characters of a stretch. -/
def chars : Stretch → List Char
  | free c => [c]
  | phrase quote contents closed =>
    quote :: (contents ++ if closed then [quote] else [])

/-- A stretch that a division takes into the word and leaves behind: a phrase that is
closed, or a character that does not separate. -/
def Passes (separator : Char) : Stretch → Prop
  | free c => isQuote c = false ∧ c ≠ separator
  | phrase quote contents closed =>
    isQuote quote = true ∧ quote ∉ contents ∧ closed = true

end Stretch

/-- The stretches of a text. -/
def stretches : List Char → List Stretch
  | [] => []
  | c :: rest =>
    if isQuote c then
      match _h : rest.dropWhile (· != c) with
      | [] => [.phrase c rest false]
      | _ :: behind => .phrase c (rest.takeWhile (· != c)) true :: stretches behind
    else .free c :: stretches rest
  termination_by cs => cs.length
  decreasing_by
    · have hBehind := (@List.dropWhile_suffix _ rest (· != c)).length_le
      rw [_h, List.length_cons] at hBehind
      rw [List.length_cons]
      omega
    · exact Nat.lt_succ_self rest.length

/-- What stands between the separators outside phrases. -/
def divided (separator : Char) (cs : List Char) : List (List Char) :=
  ((stretches cs).splitOnP (· == .free separator)).map
    fun part => part.flatMap Stretch.chars

/-- What stands between the separators outside phrases, if it is not empty. -/
def runs (separator : Char) (cs : List Char) : List (List Char) :=
  (divided separator cs).filter fun run => !run.isEmpty

/-! ## Stretch by stretch -/

theorem stretches_nil : stretches [] = [] := by
  rw [stretches]

theorem stretches_free {c : Char} (hQuote : isQuote c = false) (rest : List Char) :
    stretches (c :: rest) = .free c :: stretches rest := by
  rw [stretches, if_neg (by simp [hQuote])]

theorem stretches_unclosed {quote : Char} (hQuote : isQuote quote = true)
    {contents : List Char} (h : quote ∉ contents) :
    stretches (quote :: contents) = [.phrase quote contents false] := by
  have hDropped : (contents ++ []).dropWhile (· != quote) = [] :=
    List.dropWhile_append_of_pos (bne_of_notMem h)
  rw [List.append_nil] at hDropped
  rw [stretches, if_pos hQuote]
  split
  · rfl
  · next hBehind =>
    rw [hDropped] at hBehind
    cases hBehind

theorem stretches_passed {separator : Char} {stretch : Stretch}
    (h : stretch.Passes separator) (rest : List Char) :
    stretches (stretch.chars ++ rest) = stretch :: stretches rest := by
  cases stretch with
  | free c => exact stretches_free h.1 rest
  | phrase quote contents closed =>
      obtain ⟨hQuote, hNot, rfl⟩ := h
      have hText : (Stretch.phrase quote contents true).chars ++ rest =
          quote :: (contents ++ quote :: rest) := by
        simp [Stretch.chars]
      have hTaken : (contents ++ quote :: rest).takeWhile (· != quote) = contents := by
        rw [List.takeWhile_append_of_pos (bne_of_notMem hNot)]
        simp
      have hDropped : (contents ++ quote :: rest).dropWhile (· != quote) =
          quote :: rest := by
        rw [List.dropWhile_append_of_pos (bne_of_notMem hNot)]
        simp
      rw [hText, stretches, if_pos hQuote]
      split
      · next hNone =>
        rw [hDropped] at hNone
        cases hNone
      · next hBehind =>
        rw [hDropped, List.cons.injEq] at hBehind
        rw [hTaken, ← hBehind.2]

/-- Induction along a division: a text is empty, or starts with a separator outside
phrases or a stretch that passes, or is a phrase that is not closed. -/
@[elab_as_elim]
theorem division_induction {separator : Char} {motive : List Char → Prop}
    (cs : List Char) (nil : motive [])
    (separated : ∀ rest, motive rest → motive (separator :: rest))
    (passed : ∀ stretch : Stretch, stretch.Passes separator → ∀ rest, motive rest →
      motive (stretch.chars ++ rest))
    (unclosed : ∀ quote contents, isQuote quote = true → quote ∉ contents →
      motive (quote :: contents)) :
    motive cs := by
  induction hLength : cs.length using Nat.strongRecOn generalizing cs with
  | ind n ih =>
      subst hLength
      match cs with
      | [] => exact nil
      | c :: rest =>
          by_cases hSeparator : c = separator
          · rw [hSeparator]
            exact separated rest (ih _ (by simp) rest rfl)
          · by_cases hQuote : isQuote c = true
            · by_cases hMem : c ∈ rest
              · obtain ⟨contents, behind, rfl, hNot⟩ := List.eq_append_cons_of_mem hMem
                have hPassed := passed (.phrase c contents true) ⟨hQuote,
                  hNot, rfl⟩ behind (ih _ (by simp; omega) behind rfl)
                simpa [Stretch.chars] using hPassed
              · exact unclosed c rest hQuote hMem
            · exact passed (.free c) ⟨by simpa using hQuote, hSeparator⟩ rest
                (ih _ (by simp) rest rfl)

/-- The stretches of a text give the text. -/
theorem flatMap_stretches (cs : List Char) :
    (stretches cs).flatMap Stretch.chars = cs := by
  induction cs using @division_induction ' ' with
  | nil => rw [stretches_nil, List.flatMap_nil]
  | separated rest ih => rw [stretches_free (by decide), List.flatMap_cons, ih]; rfl
  | passed stretch h rest ih => rw [stretches_passed h, List.flatMap_cons, ih]
  | unclosed quote contents hQuote hNot =>
      rw [stretches_unclosed hQuote hNot]; simp [Stretch.chars]

/-! ## Between separators -/

section Runs

variable {separator : Char}

theorem divided_nil : divided separator [] = [[]] := by
  rw [divided, stretches_nil]
  rfl

theorem divided_separator (hSeparator : isQuote separator = false) (rest : List Char) :
    divided separator (separator :: rest) = [] :: divided separator rest := by
  rw [divided, stretches_free hSeparator, List.splitOnP_cons_eq_if_modifyHead,
    if_pos (beq_self_eq_true _), List.map_cons]
  rfl

theorem divided_unclosed {quote : Char} (hQuote : isQuote quote = true)
    {contents : List Char} (h : quote ∉ contents) :
    divided separator (quote :: contents) = [quote :: contents] := by
  rw [divided, stretches_unclosed hQuote h]
  simp [List.splitOnP_cons_eq_if_modifyHead, Stretch.chars]

/-- A division takes the piece whole, whatever follows it. -/
def Whole (separator : Char) (piece : List Char) : Prop :=
  ∀ rest, divided separator (piece ++ rest) =
    (divided separator rest).modifyHead (piece ++ ·)

private theorem whole_nil : Whole separator [] := by
  intro rest
  rw [List.nil_append]
  cases divided separator rest <;> rfl

theorem Whole.append {first second : List Char} (hFirst : Whole separator first)
    (hSecond : Whole separator second) : Whole separator (first ++ second) := by
  intro rest
  rw [List.append_assoc, hFirst, hSecond, List.modifyHead_modifyHead]
  congr 1
  funext piece
  exact (List.append_assoc first second piece).symm

theorem Whole.divided_eq {piece : List Char} (h : Whole separator piece) :
    divided separator piece = [piece] := by
  have hAlone := h []
  rw [List.append_nil, divided_nil, List.modifyHead_cons, List.append_nil] at hAlone
  exact hAlone

theorem Stretch.Passes.whole {stretch : Stretch} (h : stretch.Passes separator) :
    Whole separator stretch.chars := by
  have hOther : (stretch == .free separator) = false := by
    apply beq_false_of_ne
    rintro rfl
    exact h.2 rfl
  intro rest
  rw [divided, stretches_passed h, List.splitOnP_cons_eq_if_modifyHead,
    if_neg (by simp [hOther]), divided]
  cases (stretches rest).splitOnP (· == .free separator) <;> rfl

/-- There is always a first piece. -/
theorem exists_divided (separator : Char) (cs : List Char) :
    ∃ piece pieces, divided separator cs = piece :: pieces := by
  apply List.exists_cons_of_ne_nil
  rw [divided, Ne, List.map_eq_nil_iff]
  exact List.splitOnP_ne_nil _ _

theorem ne_nil_of_mem_runs {cs : List Char} : ∀ run ∈ runs separator cs, run ≠ [] := by
  intro run hMem
  simpa using (List.mem_filter.mp hMem).2

/-- What stands between separators, put together, is what is no separator. -/
private theorem flatten_map_splitOnP (row : List Stretch) :
    ((row.splitOnP (· == .free separator)).map
      fun part => part.flatMap Stretch.chars).flatten =
      (row.filter (· != .free separator)).flatMap Stretch.chars := by
  induction row with
  | nil => rfl
  | cons stretch rest ih =>
      rw [List.splitOnP_cons_eq_if_modifyHead, List.filter_cons]
      by_cases hSame : stretch = .free separator
      · simpa [hSame] using ih
      · obtain ⟨part, parts, hParts⟩ := List.exists_cons_of_ne_nil
          (List.splitOnP_ne_nil (· == Stretch.free separator) rest)
        rw [hParts] at ih ⊢
        simpa [hSame] using ih

/-- The runs hold all stretches but the separators outside phrases, in their order. -/
theorem flatten_runs (cs : List Char) :
    (runs separator cs).flatten =
      ((stretches cs).filter (· != .free separator)).flatMap Stretch.chars := by
  rw [runs, List.flatten_filter_not_isEmpty, divided, flatten_map_splitOnP]

/-! ## Put together again -/

/-- Pieces that a division takes whole, except that the last one may also end in a
phrase that is not closed. -/
inductive Sealed (separator : Char) : List (List Char) → Prop
  | nil : Sealed separator []
  | last {piece : List Char} : divided separator piece = [piece] →
      Sealed separator [piece]
  | cons {piece : List Char} {rest : List (List Char)} : Whole separator piece →
      Sealed separator rest → Sealed separator (piece :: rest)

/-- A piece that is taken whole may be put in front of the first one. -/
theorem Sealed.prepend {front piece : List Char} {rest : List (List Char)}
    (hFront : Whole separator front) (h : Sealed separator (piece :: rest)) :
    Sealed separator ((front ++ piece) :: rest) := by
  cases h with
  | last hPiece => exact .last (by rw [hFront, hPiece, List.modifyHead_cons])
  | cons hPiece hRest => exact .cons (hFront.append hPiece) hRest

theorem Sealed.filter {pieces : List (List Char)} (h : Sealed separator pieces) :
    Sealed separator (pieces.filter fun run => !run.isEmpty) := by
  induction h with
  | nil => exact .nil
  | @last piece hPiece =>
      rw [List.filter_cons, List.filter_nil]
      split
      · exact .last hPiece
      · exact .nil
  | cons hPiece hRest ih =>
      rw [List.filter_cons]
      split
      · exact .cons hPiece ih
      · exact ih

theorem Sealed.groupFrom {joins : Seam → Bool} {before group : List Char}
    {pieces : List (List Char)} (h : Sealed separator (group :: pieces)) :
    Sealed separator (groupFrom joins before group pieces) := by
  induction pieces generalizing before group with
  | nil => exact h
  | cons piece rest ih =>
      cases h with
      | cons hGroup hPieces =>
        rw [TextTemplate.groupFrom]
        split
        · exact ih (hPieces.prepend hGroup)
        · exact .cons hGroup (ih hPieces)

theorem Sealed.grouped {joins : Seam → Bool} {before : List Char}
    {pieces : List (List Char)} (h : Sealed separator pieces) :
    Sealed separator (grouped joins before pieces) := by
  cases pieces with
  | nil => exact h
  | cons first rest => exact h.groupFrom

theorem sealed_divided (hSeparator : isQuote separator = false) (cs : List Char) :
    Sealed separator (divided separator cs) := by
  induction cs using @division_induction separator with
  | nil => rw [divided_nil]; exact .last divided_nil
  | separated rest ih => rw [divided_separator hSeparator]; exact .cons whole_nil ih
  | passed stretch h rest ih =>
      obtain ⟨piece, pieces, hPieces⟩ := exists_divided separator rest
      rw [h.whole, hPieces, List.modifyHead_cons]
      rw [hPieces] at ih
      exact ih.prepend h.whole
  | unclosed quote contents hQuote hNot =>
      have hAlone : divided separator (quote :: contents) = [quote :: contents] :=
        divided_unclosed hQuote hNot
      rw [hAlone]
      exact .last hAlone

/-- Pieces with single separators between them are divided at these. -/
theorem Sealed.divided_intercalate (hSeparator : isQuote separator = false)
    {pieces : List (List Char)} (h : Sealed separator pieces)
    (hNotEmpty : pieces ≠ []) :
    divided separator ([separator].intercalate pieces) = pieces := by
  induction h with
  | nil => exact absurd rfl hNotEmpty
  | last hPiece => simpa using hPiece
  | @cons piece rest hPiece hRest ih =>
      cases rest with
      | nil => simpa using hPiece.divided_eq
      | cons next others =>
          rw [List.intercalate_cons_cons, List.append_assoc, hPiece,
            List.singleton_append, divided_separator hSeparator, List.modifyHead_cons,
            List.append_nil, ih (List.cons_ne_nil next others)]

theorem Sealed.runs_intercalate (hSeparator : isQuote separator = false)
    {pieces : List (List Char)} (h : Sealed separator pieces)
    (hPieces : ∀ piece ∈ pieces, piece ≠ []) :
    runs separator ([separator].intercalate pieces) = pieces := by
  have hKept : (pieces.filter fun run => !run.isEmpty) = pieces :=
    List.filter_eq_self.mpr fun piece hMem => by simpa using hPieces piece hMem
  by_cases hNotEmpty : pieces = []
  · subst hNotEmpty
    rw [List.intercalate_nil, runs, divided_nil]
    rfl
  · rw [runs, h.divided_intercalate hSeparator hNotEmpty, hKept]

end Runs

end TextTemplate
