import TextTemplate.Proofs.Text.Division
import TextTemplate.Proofs.Token.Runs

/-!
# Components of a text

The components of a text are its words, glued together at marks. Whether a word goes on
with the component before it depends on the seam alone, so the components are groups of
words, as the words are groups of runs, and what is said about groups holds of them
twice over.

Two rules that one might expect do not hold without exception. A separator outside
phrases does not end a word behind an entangled text. And a word of marks goes on with
the component before it only if its marks stand side by side in the order comma, bar,
colon; two bars do not.

## Main results

* `splitPhrases_unmarked` — the components of a text without marks.
* `splitPhrases_lossless` — components hold all but the separators outside phrases, and
  are divided again into themselves.
* `splitPhrases_unquoted` — the components between blanks of a text without quotes.
-/

namespace TextTemplate

open TextTemplate.Text

/-! ## Words that are attached -/

/-- A run of marks has nothing else in it. -/
theorem isMark_of_isMarkRun {word : List Char} (h : isMarkRun word = true) :
    ∀ c ∈ word, isMark c = true := by
  simp only [isMarkRun, Bool.or_eq_true, beq_iff_eq] at h
  rcases h with ((((rfl | rfl) | rfl) | rfl) | rfl) | rfl <;>
    exact List.all_eq_true.mp rfl

/-- A word goes on with the text before it if that ends in a mark or if the word is one
that sticks to it. -/
def follows (sticks : List Char → Bool) (seam : Seam) : Bool :=
  endsInMark seam.before || sticks seam.piece

/-- Appends a word to the last component, if that ends in a mark or if the word is one
that sticks to it, or else makes it a component of its own. The components are given
last one first. -/
def attach (sticks : List Char → Bool) (components : List (List Char))
    (word : List Char) : List (List Char) :=
  match components with
  | [] => [word]
  | last :: before =>
    if endsInMark last || sticks word then (last ++ word) :: before
      else word :: last :: before

/-- The components that words are attached to one after the other. -/
def attached (sticks : List Char → Bool) (words : List (List Char)) :
    List (List Char) :=
  (words.foldl (attach sticks) []).reverse

private theorem components_eq_attached (separator : Char) (cs : List Char) :
    components separator cs = attached isMarkRun (words separator cs) := by
  have hGlue : glue = attach isMarkRun := by
    funext components word
    cases components <;> rfl
  rw [components, hGlue, attached]

theorem endsInMark_append {front back : List Char} (h : back ≠ []) :
    endsInMark (front ++ back) = endsInMark back := by
  rw [endsInMark, List.getLast?_append, List.getLast?_eq_some_getLast h, Option.some_or,
    endsInMark, List.getLast?_eq_some_getLast h]

theorem foldl_attach {sticks : List Char → Bool} {words : List (List Char)}
    (hWords : ∀ word ∈ words, word ≠ []) {before last : List Char}
    (hLast : endsInMark last = endsInMark before) (others : List (List Char)) :
    words.foldl (attach sticks) (last :: others) =
      (groupFrom (follows sticks) before last words).reverse ++ others := by
  induction words generalizing before last others with
  | nil => rfl
  | cons word rest ih =>
      obtain ⟨hWord, hRest⟩ := List.forall_mem_cons.mp hWords
      rw [List.foldl_cons, attach, groupFrom, follows, hLast]
      split
      · apply ih hRest
        rw [endsInMark_append hWord, endsInMark_append hWord]
      · have hEnd : endsInMark word = endsInMark (before ++ word) :=
          (endsInMark_append hWord).symm
        rw [ih hRest hEnd, List.reverse_cons, List.append_assoc, List.singleton_append]

/-- Words that are attached one after the other are grouped. -/
theorem attached_eq_grouped (sticks : List Char → Bool) {words : List (List Char)}
    (hWords : ∀ word ∈ words, word ≠ []) :
    attached sticks words = grouped (follows sticks) [] words := by
  cases words with
  | nil => rfl
  | cons first rest =>
      have hFold := @foldl_attach sticks rest (List.forall_mem_cons.mp hWords).2 first
        first rfl []
      rw [List.append_nil] at hFold
      rw [attached, List.foldl_cons, attach, hFold, List.reverse_reverse, grouped,
        List.nil_append]

section Components

variable {separator : Char}

theorem ne_nil_of_mem_words (hSeparator : isQuote separator = false) (cs : List Char) :
    ∀ word ∈ words separator cs, word ≠ [] := by
  rw [words_eq_tied hSeparator]
  exact ne_nil_of_mem_grouped ne_nil_of_mem_runs

/-- The components are groups of words. -/
theorem components_eq_grouped (hSeparator : isQuote separator = false)
    (cs : List Char) :
    components separator cs = grouped (follows isMarkRun) [] (words separator cs) := by
  rw [components_eq_attached, attached_eq_grouped _ (ne_nil_of_mem_words hSeparator cs)]

theorem ne_nil_of_mem_components (hSeparator : isQuote separator = false)
    (cs : List Char) :
    ∀ component ∈ components separator cs, component ≠ [] := by
  rw [components_eq_grouped hSeparator]
  exact ne_nil_of_mem_grouped (ne_nil_of_mem_words hSeparator cs)

private theorem flatten_components (hSeparator : isQuote separator = false)
    (cs : List Char) :
    (components separator cs).flatten =
      ((stretches cs).filter (· != .free separator)).flatMap Stretch.chars := by
  rw [components_eq_grouped hSeparator, flatten_grouped, words_eq_tied hSeparator,
    flatten_tied, flatten_runs]

/-- A word of its own in front of a text is a component of its own exactly if the text
does not start with a word of marks, which would be attached to it. -/
private theorem components_cons_iff (hSeparator : isQuote separator = false)
    {word : List Char} (hWord : word ≠ [])
    (hPlain : ∀ c ∈ word, c ≠ separator ∧ isQuote c = false)
    (hMark : endsInMark word = false) {rest : List Char} {others : List (List Char)} :
    components separator (word ++ separator :: rest) = word :: others ↔
      components separator rest = others ∧
        (words separator rest).head?.any isMarkRun = false := by
  have hRest := ne_nil_of_mem_words hSeparator rest
  rw [components_eq_attached, components_eq_grouped hSeparator rest,
    words_inert_separator hSeparator (inert_plain hPlain) hWord, attached,
    List.foldl_cons, attach]
  cases hWords : words separator rest with
  | nil => simp [grouped, eq_comm]
  | cons first more =>
      rw [hWords] at hRest
      obtain ⟨hFirst, hMore⟩ := List.forall_mem_cons.mp hRest
      rw [List.foldl_cons, attach, hMark, Bool.false_or, List.head?_cons,
        Option.any_some, grouped, List.nil_append]
      cases hRun : isMarkRun first with
      | true =>
          obtain ⟨tail, groups, hGroups⟩ :=
            exists_groupFrom (follows isMarkRun) first (word ++ first) more
          have hLonger : word ++ (first ++ tail) ≠ word := by simp [hFirst]
          rw [if_pos rfl, foldl_attach hMore (endsInMark_append hFirst), hGroups]
          simp [hLonger]
      | false =>
          rw [if_neg Bool.false_ne_true, foldl_attach hMore rfl]
          simp

/-! ## Seams between words -/

/-- The text before a seam ends as the piece before the seam does. -/
private theorem map_endsInMark_seamsFrom {before first : List Char}
    (hFirst : endsInMark first = endsInMark before) {rest : List (List Char)}
    (hRest : ∀ piece ∈ rest, piece ≠ []) :
    (seamsFrom before rest).map (fun seam => endsInMark seam.before) =
      (first :: rest).dropLast.map endsInMark := by
  induction rest generalizing before first with
  | nil => rfl
  | cons next others ih =>
      obtain ⟨hNext, hOthers⟩ := List.forall_mem_cons.mp hRest
      rw [seamsFrom, List.map_cons, List.dropLast_cons_cons, List.map_cons,
        ih (endsInMark_append hNext).symm hOthers, hFirst]

theorem map_endsInMark_seams {pieces : List (List Char)}
    (hPieces : ∀ piece ∈ pieces, piece ≠ []) :
    (seams pieces).map (fun seam => endsInMark seam.before) =
      pieces.dropLast.map endsInMark := by
  cases pieces with
  | nil => rfl
  | cons first rest =>
      exact map_endsInMark_seamsFrom rfl (List.forall_mem_cons.mp hPieces).2

/-- Words that neither end in a mark nor consist of marks are the components. -/
theorem components_eq_words (hSeparator : isQuote separator = false) {cs : List Char}
    (h : ∀ word ∈ words separator cs, endsInMark word = false ∧
      isMarkRun word = false) :
    components separator cs = words separator cs := by
  have hWords := ne_nil_of_mem_words hSeparator cs
  rw [components_eq_grouped hSeparator, grouped_eq_self_iff hWords]
  intro seam hMem
  have hBefore : endsInMark seam.before ∈ (words separator cs).dropLast.map
      endsInMark := by
    rw [← map_endsInMark_seams hWords]
    exact List.mem_map_of_mem (f := fun seam => endsInMark seam.before) hMem
  obtain ⟨word, hWord, hEnd⟩ := List.mem_map.mp hBefore
  rw [follows, ← hEnd, (h word (List.dropLast_subset _ hWord)).1,
    (h _ (piece_mem_of_mem_seams hMem)).2, Bool.or_false]

/-! ## Texts without marks -/

/-- No character of a word is made up. -/
private theorem mem_of_mem_words (hSeparator : isQuote separator = false)
    {cs : List Char} :
    ∀ word ∈ words separator cs, ∀ c ∈ word, c ∈ cs := by
  intro word hWord c hMem
  have hRuns : c ∈ (runs separator cs).flatten := by
    rw [← flatten_tied [], ← words_eq_tied hSeparator]
    exact List.mem_flatten.mpr ⟨word, hWord, hMem⟩
  rw [flatten_runs] at hRuns
  obtain ⟨stretch, hStretch, hChar⟩ := List.mem_flatMap.mp hRuns
  rw [← flatMap_stretches cs]
  exact List.mem_flatMap.mpr ⟨stretch, (List.mem_filter.mp hStretch).1, hChar⟩

/-- A word without marks neither ends in a mark nor consists of marks. -/
private theorem apart_of_unmarked {word : List Char} (hWord : word ≠ [])
    (h : ∀ c ∈ word, isMark c = false) :
    endsInMark word = false ∧ isMarkRun word = false := by
  constructor
  · rw [endsInMark, Option.any_eq_false]
    exact fun c hLast => by simpa using h c (List.mem_of_getLast? hLast)
  · obtain ⟨c, hMem⟩ := List.exists_mem_of_ne_nil word hWord
    refine Bool.eq_false_iff.mpr fun hRun => ?_
    have hMark := isMark_of_isMarkRun hRun c hMem
    rw [h c hMem] at hMark
    cases hMark

private theorem components_unmarked (hSeparator : isQuote separator = false)
    {cs : List Char} (hMarks : ∀ c ∈ cs, isMark c = false) :
    components separator cs = words separator cs :=
  components_eq_words hSeparator fun word hWord =>
    apart_of_unmarked (ne_nil_of_mem_words hSeparator cs word hWord) fun c hMem =>
      hMarks c (mem_of_mem_words hSeparator word hWord c hMem)

/-- A text without marks, divided at a character that is no quote: its components are
its runs, tied together at entangled seams. So every separator outside phrases parts two
components exactly if no seam is entangled. -/
theorem splitPhrases_unmarked (hSeparator : isQuote separator = false) {text : String}
    (hMarks : ∀ c ∈ text.toList, isMark c = false) :
    splitPhrases separator text =
      (tied [] (runs separator text.toList)).map String.ofList ∧
      (splitPhrases separator text = (runs separator text.toList).map String.ofList ↔
        ∀ seam ∈ seams (runs separator text.toList),
          entangled seam.before = false) := by
  have hWords : components separator text.toList =
      tied [] (runs separator text.toList) := by
    rw [components_unmarked hSeparator hMarks, words_eq_tied hSeparator]
  rw [splitPhrases, hWords]
  refine ⟨rfl, ?_⟩
  rw [List.map_inj_right fun _ _ => String.ofList_injective, tied]
  exact grouped_eq_self_iff ne_nil_of_mem_runs

/-- Quotes of one kind inside phrases of the other kind do no harm where one of the two
counts is even. -/
theorem splitPhrases_unmarked_of_nested_quotes :
    let text := "\"it's\" 'a \"b\" c'  d"
    isQuote ' ' = false ∧ (∀ c ∈ text.toList, isMark c = false) ∧
      (∀ seam ∈ seams (runs ' ' text.toList), entangled seam.before = false) ∧
      splitPhrases ' ' text = ["\"it's\"", "'a \"b\" c'", "d"] := by
  intro text
  have hSeparator : isQuote ' ' = false := by decide
  have hMarks : ∀ c ∈ text.toList, isMark c = false := by simp [text, isMark]
  have hRuns : runs ' ' text.toList = ["\"it's\"".toList, "'a \"b\" c'".toList,
      ['d']] := by decide +kernel
  have hSeams : ∀ seam ∈ seams (runs ' ' text.toList),
      entangled seam.before = false := by
    rw [hRuns]
    simp [seams, seamsFrom, entangled]
  refine ⟨hSeparator, hMarks, hSeams, ?_⟩
  rw [(splitPhrases_unmarked hSeparator hMarks).2.mpr hSeams, hRuns]
  rfl

/-- Behind a phrase with a double quote inside and a phrase with a single one a blank
does not end the word. -/
theorem splitPhrases_ne_runs_of_entangled :
    let text := "'\"' \"'\" x"
    isQuote ' ' = false ∧ isMark ' ' = false ∧ (∀ c ∈ text.toList, isMark c = false) ∧
      splitPhrases ' ' text = ["'\"'", "\"'\"x"] ∧
      (runs ' ' text.toList).map String.ofList = ["'\"'", "\"'\"", "x"] ∧
      splitPhrases ' ' text ≠ (runs ' ' text.toList).map String.ofList := by
  intro text
  have hSplit : splitPhrases ' ' text = ["'\"'", "\"'\"x"] := by decide
  have hRuns : (runs ' ' text.toList).map String.ofList = ["'\"'", "\"'\"", "x"] := by
    decide +kernel
  refine ⟨by decide, by decide, by simp [text, isMark], hSplit, hRuns, ?_⟩
  rw [hSplit, hRuns]
  decide

/-! ## Nothing but separators is lost -/

/-- What a run of marks starts with is one. -/
private theorem isMarkRun_of_prefix {start word : List Char} (hStart : start ≠ [])
    (h : start <+: word) (hRun : isMarkRun word = true) : isMarkRun start = true := by
  simp only [isMarkRun, Bool.or_eq_true, beq_iff_eq] at hRun ⊢
  rcases hRun with ((((rfl | rfl) | rfl) | rfl) | rfl) | rfl <;>
    grind [List.prefix_cons_iff]

section Lossless

variable {separator : Char} (hSeparator : isQuote separator = false) (cs : List Char)

include hSeparator

/-- At a seam between components the text before it is not entangled and does not end in
a mark, and the component behind it is no run of marks. -/
theorem seam_of_components {seam : Seam} (h : seam ∈ seams (components separator cs)) :
    entangled seam.before = false ∧ endsInMark seam.before = false ∧
      isMarkRun seam.piece = false := by
  have hWords := ne_nil_of_mem_words hSeparator cs
  rw [components_eq_grouped hSeparator] at h
  obtain ⟨⟨before, word⟩, hWordSeam, hFollows, rfl, hPrefix⟩ := seam_of_grouped hWords h
  rw [follows, Bool.or_eq_false_iff] at hFollows
  have hWord := piece_mem_of_mem_seams hWordSeam
  refine ⟨?_, hFollows.1, Bool.eq_false_iff.mpr fun hRun => ?_⟩
  · rw [words_eq_tied hSeparator, tied] at hWordSeam
    obtain ⟨⟨_, run⟩, -, hEntangled, rfl, -⟩ :=
      seam_of_grouped ne_nil_of_mem_runs hWordSeam
    exact hEntangled
  · have hStart := isMarkRun_of_prefix (hWords word hWord) hPrefix hRun
    rw [hFollows.2] at hStart
    cases hStart

private theorem not_endsInMark_of_mem_dropLast :
    ∀ component ∈ (components separator cs).dropLast, endsInMark component = false := by
  intro component hMem
  have hEnd : endsInMark component ∈ (components separator cs).dropLast.map
      endsInMark :=
    List.mem_map_of_mem hMem
  rw [← map_endsInMark_seams (ne_nil_of_mem_components hSeparator cs)] at hEnd
  obtain ⟨seam, hSeam, hBefore⟩ := List.mem_map.mp hEnd
  rw [← hBefore]
  exact (seam_of_components hSeparator cs hSeam).2.1

/-- Components with single separators between them are divided into themselves again. -/
private theorem components_intercalate :
    components separator ([separator].intercalate (components separator cs)) =
      components separator cs := by
  have hSealed : Sealed separator (components separator cs) := by
    rw [components_eq_grouped hSeparator, words_eq_tied hSeparator, tied]
    exact (sealed_divided hSeparator cs).filter.grouped.grouped
  have hNotEmpty := ne_nil_of_mem_components hSeparator cs
  have hWords : words separator ([separator].intercalate (components separator cs)) =
      components separator cs := by
    rw [words_eq_tied hSeparator, hSealed.runs_intercalate hSeparator hNotEmpty, tied,
      grouped_eq_self_iff hNotEmpty]
    exact fun seam hMem => (seam_of_components hSeparator cs hMem).1
  rw [components_eq_grouped hSeparator, hWords, grouped_eq_self_iff hNotEmpty]
  intro seam hMem
  obtain ⟨-, hBefore, hPiece⟩ := seam_of_components hSeparator cs hMem
  rw [follows, hBefore, hPiece, Bool.or_false]

end Lossless

/-- What `components_cons_iff` says of characters, for texts. -/
theorem splitPhrases_cons_iff {separator : Char}
    (hSeparator : isQuote separator = false) {word : String} (hWord : word ≠ "")
    (hPlain : ∀ c ∈ word.toList, c ≠ separator ∧ isQuote c = false)
    (hMark : endsInMark word.toList = false) {text : String} {others : List String} :
    splitPhrases separator (word ++ String.singleton separator ++ text) =
      word :: others ↔
      splitPhrases separator text = others ∧
        (words separator text.toList).head?.any isMarkRun = false := by
  have hChars : word.toList ≠ [] := fun hNil => hWord (String.toList_eq_nil_iff.mp hNil)
  have hText : (word ++ String.singleton separator ++ text).toList =
      word.toList ++ separator :: text.toList := by
    simp
  rw [splitPhrases, splitPhrases, map_ofList_eq_iff, map_ofList_eq_iff, List.map_cons,
    hText, components_cons_iff hSeparator hChars hPlain hMark]

/-- A text divided at a character that is no quote: its components put together are the
text without the separators outside phrases, none of them is empty, only the last one
may end in a mark, and with single separators between them they are divided into
themselves again. -/
theorem splitPhrases_lossless {separator : Char}
    (hSeparator : isQuote separator = false) (text : String) :
    String.join (splitPhrases separator text) =
        String.ofList (((stretches text.toList).filter (· != .free separator)).flatMap
          Stretch.chars) ∧
      (∀ component ∈ splitPhrases separator text, component ≠ "") ∧
      (∀ component ∈ (splitPhrases separator text).dropLast,
        endsInMark component.toList = false) ∧
      splitPhrases separator ((String.singleton separator).intercalate
        (splitPhrases separator text)) =
        splitPhrases separator text := by
  refine ⟨?_, ?_, ?_, ?_⟩
  · rw [← flatten_components hSeparator, splitPhrases, ← String.toList_inj,
      String.toList_join, List.flatMap_def, map_toList_map_ofList, String.toList_ofList]
  · intro component hMem
    obtain ⟨cs, hComponent, rfl⟩ := List.mem_map.mp hMem
    intro hEmpty
    exact ne_nil_of_mem_components hSeparator text.toList cs hComponent
      (String.ofList_eq_empty_iff.mp hEmpty)
  · intro component hMem
    rw [splitPhrases, ← List.map_dropLast] at hMem
    obtain ⟨cs, hComponent, rfl⟩ := List.mem_map.mp hMem
    rw [String.toList_ofList]
    exact not_endsInMark_of_mem_dropLast hSeparator text.toList cs hComponent
  · rw [splitPhrases, String.toList_intercalate, splitPhrases, map_toList_map_ofList,
      String.toList_singleton, components_intercalate hSeparator]

end Components

/-- The blanks that are lost stand outside phrases; the phrase at the end is not
closed. -/
theorem splitPhrases_lossless_of_open_phrase :
    let text := "x | join : \"a b\" , y 'op en"
    isQuote ' ' = false ∧ String.join (splitPhrases ' ' text) =
      "x|join:\"a b\",y'op en" ∧ (∀ component ∈ splitPhrases ' ' text, component ≠ "") ∧
      (∀ component ∈ (splitPhrases ' ' text).dropLast,
        endsInMark component.toList = false) ∧
      splitPhrases ' ' "x|join:\"a b\",y 'op en" = splitPhrases ' ' text := by
  intro text
  have hSeparator : isQuote ' ' = false := by decide
  have hSplit : splitPhrases ' ' text = ["x|join:\"a b\",y", "'op en"] := by decide
  obtain ⟨hJoined, hNotEmpty, hEnds, hAgain⟩ := splitPhrases_lossless hSeparator text
  refine ⟨hSeparator, hJoined.trans (by decide +kernel), hNotEmpty, hEnds, ?_⟩
  rw [← hAgain, hSplit]
  rfl

/-! ## Texts without quotes -/

/-- The words between blanks. -/
def spacedWords (cs : List Char) : List (List Char) :=
  (cs.splitOn ' ').filter fun word => !word.isEmpty

theorem stretches_unquoted {cs : List Char} (h : ∀ c ∈ cs, isQuote c = false) :
    stretches cs = cs.map Stretch.free := by
  induction cs with
  | nil => exact stretches_nil
  | cons c rest ih =>
      obtain ⟨hQuote, hRest⟩ := List.forall_mem_cons.mp h
      rw [stretches_free hQuote, ih hRest, List.map_cons]

theorem unmixed_of_unquoted {cs : List Char} (h : ∀ c ∈ cs, isQuote c = false) :
    Unmixed cs := by
  intro stretch hMem
  rw [stretches_unquoted h] at hMem
  obtain ⟨c, -, rfl⟩ := List.mem_map.mp hMem
  rfl

private theorem divided_unquoted {separator : Char} {cs : List Char}
    (h : ∀ c ∈ cs, isQuote c = false) :
    divided separator cs = cs.splitOn separator := by
  rw [divided, stretches_unquoted h]
  clear h
  induction cs with
  | nil => rfl
  | cons c rest ih =>
      rw [List.map_cons, List.splitOnP_cons_eq_if_modifyHead,
        List.splitOn_cons_eq_if_modifyHead, ← ih]
      by_cases hSame : c = separator
      · simp [hSame]
      · obtain ⟨part, parts, hParts⟩ := List.exists_cons_of_ne_nil
          (List.splitOnP_ne_nil (· == Stretch.free separator) (rest.map Stretch.free))
        rw [hParts]
        simp [hSame, Stretch.chars]

private theorem words_unquoted {cs : List Char} (h : ∀ c ∈ cs, isQuote c = false) :
    words ' ' cs = spacedWords cs := by
  rw [words_eq_runs (by decide) (unmixed_of_unquoted h), runs, divided_unquoted h,
    spacedWords]

private theorem ne_nil_of_mem_spacedWords {cs : List Char} :
    ∀ word ∈ spacedWords cs, word ≠ [] := by
  intro word hMem
  simpa using (List.mem_filter.mp hMem).2

/-- A text without quotes, divided at blanks: its words are attached one after the
other, where the words of marks that stick are those that stand side by side in the
order comma, bar, colon. All words of marks stick exactly if each other word of marks
comes first or stands behind a word that ends in a mark. -/
theorem splitPhrases_unquoted {text : String}
    (hQuotes : ∀ c ∈ text.toList, isQuote c = false) :
    splitPhrases ' ' text = (attached isMarkRun (spacedWords text.toList)).map
      String.ofList ∧
      (splitPhrases ' ' text =
          (attached (fun word => word.all isMark) (spacedWords text.toList)).map
            String.ofList ↔
        ∀ seam ∈ seams (spacedWords text.toList), seam.piece.all isMark = true →
          endsInMark seam.before = true ∨ isMarkRun seam.piece = true) := by
  have hWords := @ne_nil_of_mem_spacedWords text.toList
  have hAll : ∀ word : List Char, isMarkRun word = true → word.all isMark = true :=
    fun word hRun => List.all_eq_true.mpr (isMark_of_isMarkRun hRun)
  have hComponents : components ' ' text.toList =
      attached isMarkRun (spacedWords text.toList) := by
    rw [components_eq_attached, words_unquoted hQuotes]
  rw [splitPhrases, hComponents]
  refine ⟨rfl, ?_⟩
  rw [List.map_inj_right fun _ _ => String.ofList_injective,
    attached_eq_grouped _ hWords, attached_eq_grouped _ hWords, grouped_eq_iff hWords]
  refine forall₂_congr fun seam _ => ?_
  have hRun := hAll seam.piece
  rw [follows, follows]
  generalize endsInMark seam.before = ends
  generalize isMarkRun seam.piece = sticks at hRun
  generalize seam.piece.all isMark = marks at hRun
  cases ends <;> cases sticks <;> cases marks <;> simp at hRun ⊢

/-- Two colons stick where they stand behind a bar. -/
theorem splitPhrases_unquoted_of_colons :
    let text := "key ,  value | :: join"
    (∀ c ∈ text.toList, isQuote c = false) ∧
      (∀ seam ∈ seams (spacedWords text.toList), seam.piece.all isMark = true →
        endsInMark seam.before = true ∨ isMarkRun seam.piece = true) ∧
      splitPhrases ' ' text = ["key,value|::join"] := by
  intro text
  have hQuotes : ∀ c ∈ text.toList, isQuote c = false := by simp [text, isQuote]
  have hWords : spacedWords text.toList =
      ["key".toList, [','], "value".toList, ['|'], [':', ':'], "join".toList] := by
        decide
  have hSeams : ∀ seam ∈ seams (spacedWords text.toList), seam.piece.all isMark = true →
      endsInMark seam.before = true ∨ isMarkRun seam.piece = true := by
    rw [hWords]
    simp [seams, seamsFrom, endsInMark, isMark, isMarkRun]
  refine ⟨hQuotes, hSeams, ?_⟩
  rw [(splitPhrases_unquoted hQuotes).2.mpr hSeams, hWords]
  rfl

/-- Two bars between two words are a component of their own, with the word behind
them. -/
theorem splitPhrases_unquoted_of_bars :
    let text := "a || b"
    (∀ c ∈ text.toList, isQuote c = false) ∧ splitPhrases ' ' text = ["a", "||b"] ∧
      (attached (fun word => word.all isMark) (spacedWords text.toList)).map
      String.ofList = ["a||b"] ∧
      splitPhrases ' ' text ≠
        (attached (fun word => word.all isMark) (spacedWords text.toList)).map
        String.ofList := by
  intro text
  have hSplit : splitPhrases ' ' text = ["a", "||b"] := by decide
  have hAttached : (attached (fun word => word.all isMark)
      (spacedWords text.toList)).map String.ofList = ["a||b"] := by
    decide
  refine ⟨by simp [text, isQuote], hSplit, hAttached, ?_⟩
  rw [hSplit, hAttached]
  decide

end TextTemplate
