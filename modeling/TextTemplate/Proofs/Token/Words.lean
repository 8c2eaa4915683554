import TextTemplate.Proofs.Token.Stretches

/-!
# Words of a text

A division goes through a text with a word in the making. It adds a stretch that passes
to the word and is then where it was, except that it has counted the quotes of the
stretch. Outside phrases and with both kinds of quotes even, where the stretch has an
even number of each too, nothing but the word has changed; the stretch is then called
inert, and so is a piece of text that consists of such stretches. A text that is put
together from inert pieces with separators between them is divided into these pieces.

## Main results

* `wordsFrom_passed`, `wordsFrom_unclosed`, `wordsFrom_separated` — what a division does
  with a stretch.
* `inert_plain`, `inert_quoted`, `Inert.append` — pieces that are inert.
* `words_inert`, `words_inert_separator` — the words of a text of inert pieces.
-/

namespace TextTemplate

/-! ## Counts of quotes -/

/-- Both kinds of quotes occur an odd number of times. -/
def entangled (cs : List Char) : Bool :=
  cs.count '\'' % 2 == 1 && cs.count '"' % 2 == 1

/-- Both kinds of quotes occur an even number of times. -/
def Balanced (cs : List Char) : Prop :=
  cs.count '\'' % 2 = 0 ∧ cs.count '"' % 2 = 0

theorem balanced_nil : Balanced [] :=
  ⟨rfl, rfl⟩

theorem Balanced.append {first second : List Char} (hFirst : Balanced first)
    (hSecond : Balanced second) :
    Balanced (first ++ second) := by
  unfold Balanced at *
  rw [List.count_append, List.count_append]
  omega

theorem Balanced.not_entangled {cs : List Char} (h : Balanced cs) :
    entangled cs = false := by
  simp [entangled, h.1]

/-- A text without quotes is balanced. -/
theorem balanced_unquoted {cs : List Char} (h : ∀ c ∈ cs, isQuote c = false) :
    Balanced cs := by
  have hNone : ∀ c, isQuote c = true → cs.count c = 0 := by
    intro c hQuote
    rw [List.count_eq_zero]
    intro hMem
    rw [h c hMem] at hQuote
    cases hQuote
  simp [Balanced, hNone '\'' rfl, hNone '"' rfl]

/-- A phrase that is closed and has no quote inside is balanced. -/
theorem balanced_closed {quote : Char} {contents : List Char}
    (h : ∀ c ∈ contents, isQuote c = false) :
    Balanced (quote :: (contents ++ [quote])) := by
  obtain ⟨hSingles, hDoubles⟩ := balanced_unquoted h
  simp only [Balanced, List.count_cons, List.count_append, List.count_nil]
  omega

/-! ## Stretch by stretch -/

namespace WordState

/-- A division that has read a text and has a word in the making, inside a phrase
or outside. -/
def behind (before : List Char) (phrase : Option Char) (word : List Char) : WordState :=
  ⟨word.reverse, phrase, before.count '\'' % 2 == 1, before.count '"' % 2 == 1⟩

@[simp] theorem phrase_behind (before : List Char) (phrase : Option Char)
    (word : List Char) :
    (behind before phrase word).phrase = phrase := rfl

theorem countQuote_behind (before : List Char) (phrase : Option Char) (word : List Char)
    (c : Char) :
    (behind before phrase word).countQuote c = behind (before ++ [c]) phrase word := by
  have hOdd : ∀ n : Nat, ((n + 1) % 2 == 1) = !(n % 2 == 1) := by
    intro n
    rcases Nat.mod_two_eq_zero_or_one n with h | h <;> simp [Nat.add_mod, h]
  by_cases hSingle : c = '\''
  · subst hSingle
    simp [countQuote, behind, List.count_append, hOdd]
  · by_cases hDouble : c = '"'
    · subst hDouble
      simp [countQuote, behind, List.count_append, hOdd]
    · simp [countQuote, behind, List.count_append, hSingle, hDouble]

theorem push_behind (before : List Char) (phrase : Option Char) (word : List Char)
    (c : Char) :
    (behind before phrase word).push c = behind before phrase (word ++ [c]) := by
  simp [push, behind]

end WordState

section Division

open WordState (behind)

variable {separator : Char} {before word : List Char}

/-- A character outside phrases that is no quote and does not separate is added to
the word. -/
theorem wordsFrom_free {c : Char} (hOther : c ≠ separator) (hQuote : isQuote c = false)
    (rest : List Char) :
    wordsFrom separator (behind before none word) (c :: rest) =
      wordsFrom separator (behind (before ++ [c]) none (word ++ [c])) rest := by
  rw [wordsFrom, WordState.countQuote_behind, WordState.push_behind]
  simp only [WordState.phrase_behind, beq_false_of_ne hOther, hQuote,
    Bool.false_eq_true, if_false]

/-- Inside a phrase all characters up to its quote are added to the word. -/
theorem wordsFrom_inside {quote : Char} {contents : List Char} (h : quote ∉ contents)
    (rest : List Char) :
    wordsFrom separator (behind before (some quote) word) (contents ++ rest) =
      wordsFrom separator (behind (before ++ contents) (some quote)
        (word ++ contents)) rest := by
  induction contents generalizing before word with
  | nil => simp
  | cons c contents ih =>
      rw [List.mem_cons, not_or] at h
      have hOther : (c == quote) = false := beq_false_of_ne (Ne.symm h.1)
      have hRest := @ih (before ++ [c]) (word ++ [c]) h.2
      rw [List.append_assoc, List.append_assoc, List.singleton_append] at hRest
      rw [List.cons_append, wordsFrom, WordState.countQuote_behind,
        WordState.push_behind]
      simp only [WordState.phrase_behind, hOther, Bool.false_eq_true, if_false]
      exact hRest

variable (hSeparator : isQuote separator = false)

include hSeparator

/-- A quote outside phrases opens a phrase. -/
theorem wordsFrom_opening {quote : Char} (hQuote : isQuote quote = true)
    (rest : List Char) :
    wordsFrom separator (behind before none word) (quote :: rest) =
      wordsFrom separator (behind (before ++ [quote]) (some quote)
        (word ++ [quote])) rest := by
  have hOther : (quote == separator) = false := by
    apply beq_false_of_ne
    rintro rfl
    rw [hQuote] at hSeparator
    cases hSeparator
  rw [wordsFrom, WordState.countQuote_behind, WordState.push_behind]
  simp only [behind, hOther, hQuote, Bool.false_eq_true, if_false, if_true]

/-- A stretch that passes is added to the word. -/
theorem wordsFrom_passed {stretch : Stretch} (h : stretch.Passes separator)
    (rest : List Char) :
    wordsFrom separator (behind before none word) (stretch.chars ++ rest) =
      wordsFrom separator (behind (before ++ stretch.chars) none
        (word ++ stretch.chars)) rest := by
  cases stretch with
  | free c => exact wordsFrom_free h.2 h.1 rest
  | phrase quote contents closed =>
      obtain ⟨hQuote, hNot, rfl⟩ := h
      have hText : (Stretch.phrase quote contents true).chars ++ rest =
          quote :: (contents ++ quote :: rest) := by
        simp [Stretch.chars]
      rw [hText, wordsFrom_opening hSeparator hQuote, wordsFrom_inside hNot, wordsFrom,
        WordState.countQuote_behind, WordState.push_behind]
      simp [behind, Stretch.chars]

/-- A phrase that is not closed is the end of the last word. -/
theorem wordsFrom_unclosed {quote : Char} (hQuote : isQuote quote = true)
    {contents : List Char} (h : quote ∉ contents) :
    wordsFrom separator (behind before none word) (quote :: contents) =
      [word ++ quote :: contents] := by
  have hInside := @wordsFrom_inside separator (before ++ [quote]) (word ++ [quote])
    quote contents h []
  rw [List.append_nil] at hInside
  rw [wordsFrom_opening hSeparator hQuote, hInside, wordsFrom]
  simp [behind]

/-- A separator outside phrases ends the word, unless what stands before it
is entangled. -/
theorem wordsFrom_separated (rest : List Char) :
    wordsFrom separator (behind before none word) (separator :: rest) =
      if word = [] ∨ entangled before = true
        then wordsFrom separator (behind before none word) rest
      else word :: wordsFrom separator (behind before none []) rest := by
  have hSame : (behind before none word).countQuote separator =
      behind before none word := by
    rw [isQuote, Bool.or_eq_false_iff] at hSeparator
    simp [WordState.countQuote, hSeparator]
  rw [wordsFrom, hSame]
  by_cases hWord : word = []
  · simp [behind, hWord]
  · cases hEntangled : entangled before
    · simp_all [behind, entangled]
    · simp_all [behind, entangled]

end Division

/-! ## Inert pieces -/

/-- A division outside phrases that has seen both kinds of quotes an even number
of times. -/
def WordState.outside (word : List Char) : WordState :=
  ⟨word, none, false, false⟩

theorem Balanced.behind_eq_outside {before : List Char} (h : Balanced before)
    (word : List Char) :
    WordState.behind before none word.reverse = .outside word := by
  simp [WordState.behind, WordState.outside, h.1, h.2]

/-- A division that comes to the piece outside phrases adds it to the word and goes on
behind it. -/
def Inert (separator : Char) (piece : List Char) : Prop :=
  ∀ word rest, wordsFrom separator (.outside word) (piece ++ rest) =
    wordsFrom separator (.outside (piece.reverse ++ word)) rest

theorem Inert.append {separator : Char} {first second : List Char}
    (hFirst : Inert separator first) (hSecond : Inert separator second) :
    Inert separator (first ++ second) := by
  intro word rest
  rw [List.append_assoc, hFirst, hSecond, List.reverse_append, List.append_assoc]

/-- A piece that is balanced and added to the word is inert. -/
theorem Balanced.inert {separator : Char} {piece : List Char} (hPiece : Balanced piece)
    (hAdded : ∀ word rest, wordsFrom separator (.behind [] none word) (piece ++ rest) =
      wordsFrom separator (.behind piece none (word ++ piece)) rest) :
    Inert separator piece := by
  intro word rest
  have hLonger : word.reverse ++ piece = (piece.reverse ++ word).reverse := by simp
  rw [← balanced_nil.behind_eq_outside, hAdded, hLonger, hPiece.behind_eq_outside]

/-- Characters that are neither separators nor quotes are inert. -/
theorem inert_plain {separator : Char} {text : List Char}
    (h : ∀ c ∈ text, c ≠ separator ∧ isQuote c = false) : Inert separator text := by
  induction text with
  | nil => exact fun _ _ => rfl
  | cons c text ih =>
      obtain ⟨⟨hOther, hQuote⟩, hText⟩ := List.forall_mem_cons.mp h
      have hFirst : Inert separator [c] :=
        (balanced_unquoted (List.forall_mem_singleton.mpr hQuote)).inert
          fun word rest => wordsFrom_free hOther hQuote rest
      exact hFirst.append (ih hText)

/-- A phrase without quotes inside is inert, whatever else stands in it. -/
theorem inert_quoted {separator quote : Char} (hSeparator : isQuote separator = false)
    (hQuote : isQuote quote = true) {contents : List Char}
    (h : ∀ c ∈ contents, isQuote c = false) :
    Inert separator (quote :: (contents ++ [quote])) := by
  have hNot : quote ∉ contents := by
    intro hMem
    rw [h quote hMem] at hQuote
    cases hQuote
  have hPasses : (Stretch.phrase quote contents true).Passes separator :=
    ⟨hQuote, hNot, rfl⟩
  exact (balanced_closed h).inert fun word rest =>
    wordsFrom_passed hSeparator hPasses rest

/-! ## Words between separators -/

/-- A separator ends the word before it. -/
theorem wordsFrom_separator {separator : Char} (hSeparator : isQuote separator = false)
    (word rest : List Char) :
    wordsFrom separator (.outside word) (separator :: rest) =
      if word = [] then words separator rest
        else word.reverse :: words separator rest := by
  rw [← balanced_nil.behind_eq_outside word, wordsFrom_separated hSeparator]
  by_cases hWord : word = []
  · rw [if_pos hWord, if_pos (.inl (by simp [hWord])), hWord]
    rfl
  · rw [if_neg hWord, if_neg (by simp [hWord, entangled])]
    rfl

/-- A separator in front of a text belongs to no word. -/
theorem words_separator {separator : Char} (hSeparator : isQuote separator = false)
    (rest : List Char) :
    words separator (separator :: rest) = words separator rest := by
  have hFront := wordsFrom_separator hSeparator [] rest
  rwa [if_pos rfl] at hFront

/-- An inert piece up to a separator is the first word. -/
theorem words_inert_separator {separator : Char}
    (hSeparator : isQuote separator = false) {piece : List Char}
    (hPiece : Inert separator piece) (hNotEmpty : piece ≠ []) (rest : List Char) :
    words separator (piece ++ separator :: rest) = piece :: words separator rest := by
  have hWord := hPiece [] (separator :: rest)
  rw [List.append_nil, wordsFrom_separator hSeparator,
    if_neg (by simpa using hNotEmpty), List.reverse_reverse] at hWord
  exact hWord

/-- An inert piece is a single word. -/
theorem words_inert {separator : Char} {piece : List Char}
    (hPiece : Inert separator piece) (hNotEmpty : piece ≠ []) :
    words separator piece = [piece] := by
  have hWord := hPiece [] []
  rw [List.append_nil, List.append_nil, wordsFrom] at hWord
  show wordsFrom separator (.outside []) piece = [piece]
  simpa [WordState.outside, hNotEmpty] using hWord

/-- A phrase is a single word, whatever stands in it. -/
theorem words_phrase {separator quote : Char} (hSeparator : isQuote separator = false)
    (hQuote : isQuote quote = true) {contents : List Char}
    (hContents : quote ∉ contents) :
    words separator (quote :: (contents ++ [quote])) =
      [quote :: (contents ++ [quote])] := by
  have hPasses : (Stretch.phrase quote contents true).Passes separator :=
    ⟨hQuote, hContents, rfl⟩
  have hAdded := @wordsFrom_passed separator [] [] hSeparator _ hPasses []
  rw [List.append_nil, wordsFrom] at hAdded
  simpa [words, WordState.start, WordState.behind, Stretch.chars] using hAdded

/-- A word and a phrase in single quotes are two words. -/
theorem words_named {word name : List Char} (hWord : word ≠ [])
    (hPlain : ∀ c ∈ word, c ≠ ' ' ∧ isQuote c = false) (hName : '\'' ∉ name) :
    words ' ' (word ++ ' ' :: '\'' :: (name ++ ['\''])) =
      [word, '\'' :: (name ++ ['\''])] := by
  have hBlank : isQuote ' ' = false := by decide
  rw [words_inert_separator hBlank (inert_plain hPlain) hWord,
    words_phrase hBlank rfl hName]

end TextTemplate
