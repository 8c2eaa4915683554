import TextTemplate.Proofs.Text.Blank
import TextTemplate.Proofs.Token.Components

/-!
# Rows of pieces between marks

A filter chain is a row of names and operands with marks between them, and so is each
part of it; any number of blanks may stand around a mark. Such a row is divided in two
ways. A division at a mark gives the pieces, each with the blanks around it, and nothing
is glued, as every piece begins and ends with a character that is no mark. A division at
blanks gives words that are glued again wherever a mark ends a word or is a word of its
own, so the whole row is a single component unless some mark has a blank before it and
none behind it.

## Main results

* `splitPhrases_row`, `trim_splitPhrases_row` — the pieces between marks of one kind.
* `components_row` — a row is a single component between blanks.
-/

namespace TextTemplate

open TextTemplate.Text

/-! ## Rows of pieces -/

/-- How many blanks stand before and behind a mark. -/
structure Gap where
  before : Nat
  after : Nat

/-- A mark with the blanks around it, and the piece behind them. -/
structure Link where
  gap : Gap
  mark : Char
  piece : List Char

namespace Link

/-- The characters of a link. -/
def chars (link : Link) : List Char :=
  List.replicate link.gap.before ' ' ++
    (link.mark :: (List.replicate link.gap.after ' ' ++ link.piece))

/-- The link without the blanks around its mark. -/
def tight (link : Link) : Link :=
  { link with gap := ⟨0, 0⟩ }

/-- A blank stands behind the mark if one stands before it. -/
def Followed (link : Link) : Prop :=
  0 < link.gap.before → 0 < link.gap.after

end Link

/-- The characters of a piece and of all that is linked to it. -/
def rowChars (first : List Char) (links : List Link) : List Char :=
  first ++ links.flatMap Link.chars

theorem rowChars_cons (first : List Char) (link : Link) (links : List Link) :
    rowChars first (link :: links) = rowChars (first ++ link.chars) links := by
  rw [rowChars, rowChars, List.flatMap_cons, List.append_assoc]

/-! ## Pieces -/

/-- A piece begins and ends with characters that are neither blanks nor marks. -/
structure Solid (piece : List Char) : Prop where
  start : ∃ c rest, piece = c :: rest ∧ isBlank c = false ∧ isMark c = false
  finish : ∃ front c, piece = front ++ [c] ∧ isBlank c = false ∧ isMark c = false

namespace Solid

variable {piece : List Char}

theorem ne_nil (h : Solid piece) : piece ≠ [] := by
  obtain ⟨c, rest, rfl, -⟩ := h.start
  exact List.cons_ne_nil c rest

/-- What is linked to a piece may end it. -/
theorem link {link : Link} (h : Solid piece) (hLink : Solid link.piece) :
    Solid (piece ++ link.chars) where
  start := by
    obtain ⟨c, rest, rfl, hStart⟩ := h.start
    exact ⟨c, rest ++ link.chars, List.cons_append, hStart⟩
  finish := by
    obtain ⟨front, c, hPiece, hFinish⟩ := hLink.finish
    refine ⟨piece ++ (List.replicate link.gap.before ' ' ++
      (link.mark :: (List.replicate link.gap.after ' ' ++ front))), c, ?_, hFinish⟩
    rw [Link.chars, hPiece]
    simp

theorem row {links : List Link} (h : Solid piece)
    (hLinks : ∀ link ∈ links, Solid link.piece) :
    Solid (rowChars piece links) := by
  induction links generalizing piece with
  | nil => rwa [rowChars, List.flatMap_nil, List.append_nil]
  | cons link links ih =>
      obtain ⟨hLink, hRest⟩ := List.forall_mem_cons.mp hLinks
      rw [rowChars_cons]
      exact ih (h.link hLink) hRest

end Solid

/-- Blanks are inert for any other separator. -/
theorem inert_blanks {separator : Char} (h : separator ≠ ' ') (count : Nat) :
    Inert separator (List.replicate count ' ') := by
  refine inert_plain fun c hMem => ?_
  rw [List.eq_of_mem_replicate hMem]
  exact ⟨Ne.symm h, by decide⟩

theorem isQuote_of_isMark {c : Char} (h : isMark c = true) : isQuote c = false := by
  simp only [isMark, Bool.or_eq_true, beq_iff_eq] at h
  rcases h with (rfl | rfl) | rfl <;> decide

theorem ne_blank_of_isMark {c : Char} (h : isMark c = true) : c ≠ ' ' := by
  rintro rfl
  exact absurd h (by decide)

/-- A row is inert for a mark that does not link its pieces. -/
theorem inert_row {separator : Char} (hSeparator : isMark separator = true)
    {first : List Char} (hFirst : Inert separator first) {links : List Link}
    (hLinks : ∀ link ∈ links, isMark link.mark = true ∧ link.mark ≠ separator ∧
      Inert separator link.piece) :
    Inert separator (rowChars first links) := by
  induction links generalizing first with
  | nil => rwa [rowChars, List.flatMap_nil, List.append_nil]
  | cons link links ih =>
      obtain ⟨⟨hMark, hOther, hPiece⟩, hRest⟩ := List.forall_mem_cons.mp hLinks
      have hBlanks := inert_blanks (ne_blank_of_isMark hSeparator)
      have hSingle : Inert separator [link.mark] :=
        inert_plain (List.forall_mem_singleton.mpr ⟨hOther, isQuote_of_isMark hMark⟩)
      rw [rowChars_cons]
      refine ih (hFirst.append ?_) hRest
      exact (hBlanks _).append (hSingle.append ((hBlanks _).append hPiece))

/-! ## Divisions at one mark -/

/-- A word shows a piece: trimming leaves the piece, and neither end glues the word to
another one. -/
structure Shows (word piece : List Char) : Prop where
  trims : trim (String.ofList word) = String.ofList piece
  finish : endsInMark word = false
  apart : isMarkRun word = false

/-- A piece with blanks around it shows the piece. -/
theorem Solid.shows {piece : List Char} (h : Solid piece) (before after : Nat) :
    Shows (List.replicate before ' ' ++ piece ++ List.replicate after ' ') piece := by
  obtain ⟨first, rest, hFirst, hStart, hStartMark⟩ := h.start
  obtain ⟨front, last, hLast, hFinish, hFinishMark⟩ := h.finish
  refine ⟨?_, ?_, ?_⟩
  · refine Trims.trim_eq ⟨⟨List.replicate before ' ', List.replicate after ' ', ?_,
      ?_⟩, ?_, ?_⟩
    · rw [String.toList_ofList]
    · intro c hMem
      have hBlank : c = ' ' :=
        (List.mem_append.mp hMem).elim List.eq_of_mem_replicate List.eq_of_mem_replicate
      rw [hBlank]
      decide
    · rw [String.toList_ofList, hFirst]
      rintro c ⟨⟩
      exact hStart
    · rw [String.toList_ofList, hLast, List.getLast?_concat]
      rintro c ⟨⟩
      exact hFinish
  · rw [endsInMark]
    cases after with
    | zero => rw [hLast]; simp [hFinishMark]
    | succ after =>
        rw [List.replicate_succ', ← List.append_assoc, List.getLast?_concat]
        rfl
  · apply Bool.eq_false_iff.mpr
    intro hRun
    have hMark := isMark_of_isMarkRun hRun first (by rw [hFirst]; simp)
    rw [hStartMark] at hMark
    cases hMark

/-- The words between the marks of a row: each piece with the blanks next to it. -/
def rowWords (leading : Nat) (first : List Char) : List Link → List (List Char)
  | [] => [List.replicate leading ' ' ++ first]
  | link :: links =>
    (List.replicate leading ' ' ++ first ++ List.replicate link.gap.before ' ') ::
      rowWords link.gap.after link.piece links

/-- The words of a row show its pieces, in their order. -/
private theorem trim_rowWords {links : List Link}
    (hLinks : ∀ link ∈ links, Solid link.piece) (leading : Nat) {first : List Char}
    (hFirst : Solid first) :
    (rowWords leading first links).map (fun word => trim (String.ofList word)) =
      String.ofList first :: links.map fun link => String.ofList link.piece := by
  induction links generalizing leading first with
  | nil =>
      have hShows := hFirst.shows leading 0
      rw [List.replicate_zero, List.append_nil] at hShows
      rw [rowWords, List.map_singleton, hShows.trims]
      rfl
  | cons link links ih =>
      obtain ⟨hLink, hRest⟩ := List.forall_mem_cons.mp hLinks
      rw [rowWords, List.map_cons, (hFirst.shows leading link.gap.before).trims,
        ih hRest _ hLink, List.map_cons]

/-- Nothing glues the words of a row. -/
private theorem apart_rowWords {links : List Link}
    (hLinks : ∀ link ∈ links, Solid link.piece) (leading : Nat) {first : List Char}
    (hFirst : Solid first) :
    ∀ word ∈ rowWords leading first links, endsInMark word = false ∧
      isMarkRun word = false := by
  induction links generalizing leading first with
  | nil =>
      have hShows := hFirst.shows leading 0
      rw [List.replicate_zero, List.append_nil] at hShows
      exact List.forall_mem_singleton.mpr ⟨hShows.finish, hShows.apart⟩
  | cons link links ih =>
      obtain ⟨hLink, hRest⟩ := List.forall_mem_cons.mp hLinks
      have hShows := hFirst.shows leading link.gap.before
      exact List.forall_mem_cons.mpr ⟨⟨hShows.finish, hShows.apart⟩, ih hRest _ hLink⟩

section Division

variable {mark : Char} (hMark : isMark mark = true) {links : List Link}
  (hLinks : ∀ link ∈ links, link.mark = mark ∧ Inert mark link.piece ∧ Solid link.piece)
  (leading : Nat) {first : List Char} (hInert : Inert mark first) (hSolid : Solid first)

include hMark hLinks hInert hSolid

private theorem words_row :
    words mark (List.replicate leading ' ' ++ rowChars first links) =
      rowWords leading first links := by
  have hQuote := isQuote_of_isMark hMark
  have hBlanks := inert_blanks (ne_blank_of_isMark hMark)
  induction links generalizing leading first with
  | nil =>
      have hWord : Inert mark (List.replicate leading ' ' ++ first) :=
        (hBlanks leading).append hInert
      rw [rowChars, List.flatMap_nil, List.append_nil,
        words_inert hWord (by simp [hSolid.ne_nil]), rowWords]
  | cons link links ih =>
      obtain ⟨⟨rfl, hPiece, hPieceSolid⟩, hRest⟩ := List.forall_mem_cons.mp hLinks
      have hWord : Inert link.mark
          (List.replicate leading ' ' ++ first ++ List.replicate link.gap.before ' ') :=
        ((hBlanks leading).append hInert).append (hBlanks _)
      have hSplit : List.replicate leading ' ' ++ rowChars first (link :: links) =
          (List.replicate leading ' ' ++ first ++ List.replicate link.gap.before ' ') ++
            link.mark :: (List.replicate link.gap.after ' ' ++
              rowChars link.piece links) := by
        simp [rowChars, Link.chars]
      rw [hSplit, words_inert_separator hQuote hWord (by simp [hSolid.ne_nil]),
        ih hRest _ hPiece hPieceSolid, rowWords]

/-- The components between marks of one kind are the words. -/
theorem splitPhrases_row :
    splitPhrases mark (String.ofList
      (List.replicate leading ' ' ++ rowChars first links)) =
      (rowWords leading first links).map String.ofList := by
  have hWords := words_row hMark hLinks leading hInert hSolid
  have hApart := apart_rowWords (fun link hMem => (hLinks link hMem).2.2) leading hSolid
  rw [splitPhrases, String.toList_ofList,
    components_eq_words (isQuote_of_isMark hMark) (by rwa [hWords]), hWords]

/-- The pieces that marks of one kind link are what the components between these marks
are trimmed to. -/
theorem trim_splitPhrases_row :
    (splitPhrases mark (String.ofList
      (List.replicate leading ' ' ++ rowChars first links))).map trim =
      String.ofList first :: links.map (fun link => String.ofList link.piece) := by
  have hTrims := trim_rowWords (fun link hMem => (hLinks link hMem).2.2) leading hSolid
  rw [splitPhrases_row hMark hLinks leading hInert hSolid, List.map_map]
  exact hTrims

end Division

/-! ## The division at blanks -/

/-- Blanks in front of a text belong to no word. -/
private theorem words_blanks (count : Nat) (rest : List Char) :
    words ' ' (List.replicate count ' ' ++ rest) = words ' ' rest := by
  induction count with
  | zero => rfl
  | succ count ih =>
      rw [List.replicate_succ, List.cons_append, words_separator (by decide), ih]

/-- Blanks end the word before them. -/
private theorem wordsFrom_blanks {count : Nat} (hCount : 0 < count) {word : List Char}
    (hWord : word ≠ []) (rest : List Char) :
    wordsFrom ' ' (.outside word.reverse) (List.replicate count ' ' ++ rest) =
      word :: words ' ' rest := by
  obtain ⟨less, rfl⟩ := Nat.exists_eq_succ_of_ne_zero (Nat.ne_of_gt hCount)
  rw [List.replicate_succ, List.cons_append, wordsFrom_separator (by decide),
    if_neg (by simpa using hWord), List.reverse_reverse, words_blanks]

theorem words_inert_append {separator : Char} {piece : List Char}
    (h : Inert separator piece) (rest : List Char) :
    words separator (piece ++ rest) =
      wordsFrom separator (.outside piece.reverse) rest := by
  have hPiece := h [] rest
  rwa [List.append_nil] at hPiece

/-- Whatever word comes next is glued to what there is, or is the first one. -/
def GluesNext (found : List (List Char)) : Prop :=
  ∀ word, glue found word = [found.flatten ++ word]

private theorem gluesNext_nil : GluesNext [] :=
  fun _ => rfl

private theorem gluesNext_of_endsInMark {component : List Char}
    (h : endsInMark component = true) :
    GluesNext [component] := by
  intro word
  simp [glue, h]

private theorem endsInMark_concat {mark : Char} (h : isMark mark = true)
    (front : List Char) :
    endsInMark (front ++ [mark]) = true := by
  rw [endsInMark, List.getLast?_concat]
  exact h

private theorem isMarkRun_singleton {mark : Char} (h : isMark mark = true) :
    isMarkRun [mark] = true := by
  simp only [isMark, Bool.or_eq_true, beq_iff_eq] at h
  rcases h with (rfl | rfl) | rfl <;> decide

theorem inert_mark {mark : Char} (h : isMark mark = true) : Inert ' ' [mark] :=
  inert_plain (List.forall_mem_singleton.mpr ⟨ne_blank_of_isMark h,
    isQuote_of_isMark h⟩)

/-- A mark with a blank behind it is glued to what there is, whether or not a blank
stands before it. -/
private theorem foldl_glue_mark {mark : Char} (hMark : isMark mark = true)
    {found : List (List Char)} (hFound : GluesNext found) {word : List Char}
    (hWord : word ≠ []) (before : Nat) {after : Nat} (hAfter : 0 < after)
    (rest : List Char) :
    (wordsFrom ' ' (.outside word.reverse)
      (List.replicate before ' ' ++
        ([mark] ++ (List.replicate after ' ' ++ rest)))).foldl glue found =
      (words ' ' rest).foldl glue [(found.flatten ++ word) ++ [mark]] := by
  by_cases hBefore : 0 < before
  · -- The mark is a word of its own.
    rw [wordsFrom_blanks hBefore hWord, words_inert_append (inert_mark hMark),
      wordsFrom_blanks hAfter (List.cons_ne_nil mark []), List.foldl_cons, hFound word,
      List.foldl_cons]
    simp [glue, isMarkRun_singleton hMark]
  · have hNone : before = 0 := by omega
    have hEnd : [mark].reverse ++ word.reverse = (word ++ [mark]).reverse := by simp
    rw [hNone, List.replicate_zero, List.nil_append, inert_mark hMark word.reverse,
      hEnd, wordsFrom_blanks hAfter (by simp), List.foldl_cons, hFound,
      List.append_assoc]

/-- From the end of a piece on, all that is linked to it is glued to it, without the
blanks around the marks. -/
private theorem foldl_glue_row {links : List Link}
    (hLinks : ∀ link ∈ links, isMark link.mark = true ∧ link.Followed ∧
      Inert ' ' link.piece ∧
      link.piece ≠ []) {found : List (List Char)} (hFound : GluesNext found)
    {word : List Char} (hWord : word ≠ []) :
    (wordsFrom ' ' (.outside word.reverse) (links.flatMap Link.chars)).foldl
      glue found =
      [found.flatten ++ (word ++ (links.map Link.tight).flatMap Link.chars)] := by
  induction links generalizing found word with
  | nil =>
      rw [List.flatMap_nil, wordsFrom]
      simpa [WordState.outside, hWord] using hFound word
  | cons link links ih =>
      obtain ⟨⟨hMark, hFollowed, hInert, hPiece⟩, hRest⟩ :=
        List.forall_mem_cons.mp hLinks
      have hText : (link :: links).flatMap Link.chars =
          List.replicate link.gap.before ' ' ++
          ([link.mark] ++ (List.replicate link.gap.after ' ' ++
            (link.piece ++ links.flatMap Link.chars))) := by
        simp [Link.chars]
      have hTight : ((link :: links).map Link.tight).flatMap Link.chars =
          [link.mark] ++ (link.piece ++ (links.map Link.tight).flatMap Link.chars) := by
        simp [Link.tight, Link.chars]
      rw [hText, hTight]
      by_cases hAfter : 0 < link.gap.after
      · have hNext : GluesNext [(found.flatten ++ word) ++ [link.mark]] :=
          gluesNext_of_endsInMark (endsInMark_concat hMark _)
        rw [foldl_glue_mark hMark hFound hWord _ hAfter, words_inert_append hInert,
          ih hRest hNext hPiece]
        simp
      · -- Without blanks on either side the mark and the piece behind it go on with the
        -- word.
        have hNone : link.gap.after = 0 := by omega
        have hNoneBefore : link.gap.before = 0 := by
          have hGap : 0 < link.gap.before → 0 < link.gap.after := hFollowed
          omega
        have hLonger : link.piece.reverse ++ ([link.mark].reverse ++ word.reverse) =
            (word ++ ([link.mark] ++ link.piece)).reverse := by
          simp
        rw [hNone, hNoneBefore, List.replicate_zero, List.nil_append, List.nil_append,
          inert_mark hMark word.reverse, hInert, hLonger, ih hRest hFound (by simp)]
        simp

/-- A row in which every mark with a blank before it has one behind it is a single
component, the row without these blanks. -/
theorem components_row {first : List Char} (hFirst : Inert ' ' first)
    (hNotEmpty : first ≠ []) {links : List Link}
    (hLinks : ∀ link ∈ links, isMark link.mark = true ∧ link.Followed ∧
      Inert ' ' link.piece ∧ link.piece ≠ []) :
    components ' ' (rowChars first links) =
      [rowChars first (links.map Link.tight)] := by
  rw [components, rowChars, words_inert_append hFirst,
    foldl_glue_row hLinks gluesNext_nil hNotEmpty]
  rfl

end TextTemplate
