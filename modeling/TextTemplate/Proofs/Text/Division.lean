import TextTemplate.Proofs.List
import TextTemplate.Text.Division

/-!
# Divisions lose nothing

A cut is made at the first occurrence of a separator and takes nothing else out. So the
pieces of a divided text, with the separator put back between them, are the text again;
and a separator of one character occurs in none of them. Conversely, pieces that share
no character with the separator are what their text is divided into. A character that
the separator does not have can be added at either end of a text without a change to the
number of pieces.

## Main results

* `cutAt_eq_some_iff` — a cut is made at the first occurrence.
* `intercalate_divide`, `intercalate_divideText` — the pieces are the text.
* `divide_intercalate`, `divideText_intercalate` — pieces that are apart from the
  separator are found again.
-/

namespace TextTemplate.Text

/-- A cut takes one occurrence of the separator out and nothing else. -/
theorem cutAt_eq_some {separator cs before after : List Char}
    (h : cutAt separator cs = some (before, after)) (hSeparator : separator ≠ []) :
    cs = before ++ (separator ++ after) := by
  induction cs generalizing before after with
  | nil => simp [cutAt] at h
  | cons c rest ih =>
      simp only [cutAt] at h
      split at h
      · rename_i hOccurs
        obtain ⟨behind, hBehind⟩ := List.isPrefixOf_iff_prefix.mp hOccurs
        simp only [Option.some.injEq, Prod.mk.injEq] at h
        obtain ⟨rfl, rfl⟩ := h
        have hDrop : (c :: rest).drop separator.length = behind := by
          rw [← hBehind, List.drop_left]
        obtain ⟨first, more, rfl⟩ := List.exists_cons_of_ne_nil hSeparator
        rw [List.nil_append, ← hBehind]
        congr 1
        simpa using hDrop.symm
      · simp only [Option.map_eq_some_iff, Prod.mk.injEq, Prod.exists] at h
        obtain ⟨found, left, hFound, rfl, rfl⟩ := h
        rw [List.cons_append, ← ih hFound]

/-- No separator stands before the one that is cut at. -/
theorem length_le_of_cutAt {separator cs before after left right : List Char}
    (h : cutAt separator cs = some (before, after))
    (hCs : cs = left ++ (separator ++ right)) :
    before.length ≤ left.length := by
  induction cs generalizing before after left with
  | nil => simp [cutAt] at h
  | cons c rest ih =>
      simp only [cutAt] at h
      split at h
      · simp only [Option.some.injEq, Prod.mk.injEq] at h
        simp [← h.1]
      · rename_i hNot
        simp only [Option.map_eq_some_iff, Prod.mk.injEq, Prod.exists] at h
        obtain ⟨found, last, hFound, rfl, rfl⟩ := h
        cases left with
        | nil =>
            rw [List.nil_append] at hCs
            exact absurd (List.isPrefixOf_iff_prefix.mpr ⟨right, hCs.symm⟩) hNot
        | cons d left =>
            obtain ⟨-, hRest⟩ := List.cons.inj hCs
            have := ih hFound hRest
            simp only [List.length_cons]
            omega

/-- Where nothing is cut, no separator stands. -/
theorem ne_append_of_cutAt_eq_none {separator cs : List Char}
    (h : cutAt separator cs = none) (hSeparator : separator ≠ [])
    (left right : List Char) : cs ≠ left ++ (separator ++ right) := by
  induction cs generalizing left with
  | nil =>
      intro hCs
      have hEmpty := (List.append_eq_nil_iff.mp hCs.symm).2
      exact hSeparator (List.append_eq_nil_iff.mp hEmpty).1
  | cons c rest ih =>
      simp only [cutAt] at h
      split at h
      · cases h
      · rename_i hNot
        intro hCs
        cases left with
        | nil =>
            rw [List.nil_append] at hCs
            exact hNot (List.isPrefixOf_iff_prefix.mpr ⟨right, hCs.symm⟩)
        | cons d left =>
            obtain ⟨-, hRest⟩ := List.cons.inj hCs
            exact ih (by simpa using h) left hRest

/-- A cut is made at the first separator there is. -/
theorem cutAt_eq_some_iff {separator cs before after : List Char}
    (hSeparator : separator ≠ []) :
    cutAt separator cs = some (before, after) ↔
      cs = before ++ (separator ++ after) ∧
        ∀ left right, cs = left ++ (separator ++ right) →
          before.length ≤ left.length := by
  constructor
  · exact fun h => ⟨cutAt_eq_some h hSeparator, fun _ _ hCs => length_le_of_cutAt h hCs⟩
  · rintro ⟨hCs, hFirst⟩
    cases hCut : cutAt separator cs with
    | none => exact absurd hCs (ne_append_of_cutAt_eq_none hCut hSeparator before after)
    | some pair =>
        obtain ⟨found, left⟩ := pair
        have hFound := cutAt_eq_some hCut hSeparator
        have hLength : found.length = before.length :=
          Nat.le_antisymm (length_le_of_cutAt hCut hCs) (hFirst found left hFound)
        obtain ⟨rfl, hRest⟩ := List.append_inj (hFound.symm.trans hCs) hLength
        rw [List.append_cancel_left hRest]

/-- No cut is made exactly if there is no separator. -/
theorem cutAt_eq_none_iff {separator cs : List Char} (hSeparator : separator ≠ []) :
    cutAt separator cs = none ↔ ∀ left right, cs ≠ left ++ (separator ++ right) := by
  refine ⟨fun h => ne_append_of_cutAt_eq_none h hSeparator, fun h => ?_⟩
  cases hCut : cutAt separator cs with
  | none => rfl
  | some pair => exact absurd (cutAt_eq_some hCut hSeparator) (h pair.1 pair.2)

/-- A text that is not empty occurs in another one exactly if the other has it as
a part. -/
theorem occurs_iff {part text : String} (hPart : part ≠ "") :
    occurs part text = true ↔ part.toList <:+: text.toList := by
  have hChars : part.toList ≠ [] := fun hNil => hPart (String.toList_eq_nil_iff.mp hNil)
  cases hCut : cutAt part.toList text.toList with
  | none =>
      refine iff_of_false (by simp [occurs, hCut]) ?_
      rintro ⟨left, right, hText⟩
      rw [List.append_assoc] at hText
      exact (cutAt_eq_none_iff hChars).mp hCut left right hText.symm
  | some pair =>
      refine iff_of_true (by simp [occurs, hCut]) ⟨pair.1, pair.2, ?_⟩
      rw [List.append_assoc, cutAt_eq_some hCut hChars]

theorem divide_of_cutAt_eq_none {separator cs : List Char}
    (h : cutAt separator cs = none) :
    divide separator cs = [cs] := by
  rw [divide]
  split
  · rfl
  · rename_i hSome
    rw [h] at hSome
    cases hSome

theorem divide_of_cutAt_eq_some {separator cs before after : List Char}
    (h : cutAt separator cs = some (before, after)) :
    divide separator cs = before :: divide separator after := by
  rw [divide]
  split
  · rename_i hNone
    rw [h] at hNone
    cases hNone
  · rename_i hSome
    rw [h] at hSome
    cases hSome
    rfl

/-- There is at least one piece. -/
theorem divide_ne_nil (separator cs : List Char) : divide separator cs ≠ [] := by
  rw [divide]
  split <;> exact List.cons_ne_nil _ _

/-- The pieces and the separators between them are the text. -/
theorem intercalate_divide (separator cs : List Char) (hSeparator : separator ≠ []) :
    separator.intercalate (divide separator cs) = cs := by
  induction hLength : cs.length using Nat.strongRecOn generalizing cs with
  | ind length ih =>
      rw [divide]
      split
      · exact List.intercalate_singleton
      · rename_i before after hCut
        have hShorter := length_cutAt hCut
        have hRest := ih after.length (hLength ▸ hShorter) after rfl
        rw [List.intercalate_cons_of_ne_nil (divide_ne_nil separator after), hRest,
          cutAt_eq_some hCut hSeparator, List.append_assoc]

/-! ## Pieces apart from the separator -/

section Apart

variable {separator cs : List Char} (hSeparator : separator ≠ [])

include hSeparator

/-- A character that is not in the separator does not begin one. -/
theorem cutAt_cons_of_notMem {c : Char} (hForeign : c ∉ separator) :
    cutAt separator (c :: cs) = (cutAt separator cs).map fun (before, after) =>
      (c :: before, after) := by
  have hPrefix : ¬ separator.isPrefixOf (c :: cs) = true := by
    obtain ⟨first, rest, rfl⟩ := List.exists_cons_of_ne_nil hSeparator
    have hFirst : first ≠ c := by
      rintro rfl
      exact hForeign List.mem_cons_self
    simp [hFirst]
  rw [cutAt, if_neg hPrefix]

private theorem cutAt_separator_append (after : List Char) :
    cutAt separator (separator ++ after) = some ([], after) := by
  refine (cutAt_eq_some_iff hSeparator).mpr ⟨rfl, fun left _ _ => ?_⟩
  exact Nat.zero_le left.length

/-- A cut is made behind a text that shares no character with the separator. -/
theorem cutAt_append_of_apart (h : ∀ c ∈ cs, c ∉ separator) (after : List Char) :
    cutAt separator (cs ++ (separator ++ after)) = some (cs, after) := by
  induction cs with
  | nil => exact cutAt_separator_append hSeparator after
  | cons c cs ih =>
      obtain ⟨hHead, hRest⟩ := List.forall_mem_cons.mp h
      rw [List.cons_append, cutAt_cons_of_notMem hSeparator hHead, ih hRest,
        Option.map_some]

/-- A text that shares no character with the separator is not divided. -/
theorem divide_of_apart (h : ∀ c ∈ cs, c ∉ separator) : divide separator cs = [cs] := by
  refine divide_of_cutAt_eq_none ((cutAt_eq_none_iff hSeparator).mpr
    fun left right hCs => ?_)
  obtain ⟨first, rest, rfl⟩ := List.exists_cons_of_ne_nil hSeparator
  exact h first (by rw [hCs]; simp) List.mem_cons_self

/-- Pieces that share no character with the separator come out of a division as they
were put together. -/
theorem divide_intercalate {pieces : List (List Char)} (hPieces : pieces ≠ [])
    (h : ∀ piece ∈ pieces, ∀ c ∈ piece, c ∉ separator) :
    divide separator (separator.intercalate pieces) = pieces := by
  induction pieces with
  | nil => exact absurd rfl hPieces
  | cons piece rest ih =>
      obtain ⟨hPiece, hRest⟩ := List.forall_mem_cons.mp h
      cases rest with
      | nil => rw [List.intercalate_singleton, divide_of_apart hSeparator hPiece]
      | cons next others =>
          rw [List.intercalate_cons_cons, List.append_assoc,
            divide_of_cutAt_eq_some (cutAt_append_of_apart hSeparator hPiece _),
            ih (List.cons_ne_nil next others) hRest]

end Apart

/-! ## Texts -/

/-- What `intercalate_divide` says of characters, for texts. -/
theorem intercalate_divideText {separator : String} (hSeparator : separator ≠ "")
    (text : String) :
    separator.intercalate (divideText separator text) = text := by
  have hChars : separator.toList ≠ [] :=
    fun hNil => hSeparator (String.toList_eq_nil_iff.mp hNil)
  rw [← String.toList_inj, String.toList_intercalate, divideText, map_toList_map_ofList,
    intercalate_divide _ _ hChars]

/-- What `divide_intercalate` says of characters, for texts. -/
theorem divideText_intercalate {separator : String} (hSeparator : separator ≠ "")
    {pieces : List String} (hPieces : pieces ≠ [])
    (h : ∀ piece ∈ pieces, ∀ c ∈ piece.toList, c ∉ separator.toList) :
    divideText separator (separator.intercalate pieces) = pieces := by
  have hChars : separator.toList ≠ [] :=
    fun hNil => hSeparator (String.toList_eq_nil_iff.mp hNil)
  have hLists : pieces.map String.toList ≠ [] :=
    fun hNil => hPieces (List.map_eq_nil_iff.mp hNil)
  rw [divideText, map_ofList_eq_iff, String.toList_intercalate,
    divide_intercalate hChars hLists (List.forall_mem_map.mpr h)]

/-- A text in two pieces is the pieces with the separator between them. -/
theorem eq_of_divideText {separator text first second : String}
    (hSeparator : separator ≠ "") (h : divideText separator text = [first, second]) :
    text = first ++ separator ++ second := by
  rw [← intercalate_divideText hSeparator text, h, ← String.toList_inj,
    String.toList_intercalate]
  simp [List.intercalate]

/-! ## Separators of one character -/

/-- A text without the separator is not divided. -/
theorem divide_of_notMem {c : Char} {cs : List Char} (h : c ∉ cs) :
    divide [c] cs = [cs] :=
  divide_of_apart (List.cons_ne_nil c []) (notMem_singleton_of_notMem h)

/-- A cut is made behind a text without the separator. -/
theorem cutAt_append_of_notMem {c : Char} {before : List Char} (h : c ∉ before)
    (after : List Char) :
    cutAt [c] (before ++ c :: after) = some (before, after) :=
  cutAt_append_of_apart (List.cons_ne_nil c []) (notMem_singleton_of_notMem h) after

/-- A cut at a single character takes out its first occurrence. -/
theorem notMem_of_cutAt {c : Char} {cs before after : List Char}
    (h : cutAt [c] cs = some (before, after)) : c ∉ before := by
  intro hMem
  obtain ⟨left, right, rfl⟩ := List.append_of_mem hMem
  have hCs : cs = left ++ ([c] ++ (right ++ ([c] ++ after))) := by
    simpa using cutAt_eq_some h (List.cons_ne_nil c [])
  have hFirst := length_le_of_cutAt h hCs
  rw [List.length_append, List.length_cons] at hFirst
  omega

/-- A character at which nothing is cut does not occur. -/
theorem notMem_of_cutAt_eq_none {c : Char} {cs : List Char} (h : cutAt [c] cs = none) :
    c ∉ cs := by
  intro hMem
  obtain ⟨left, right, hCs⟩ := List.append_of_mem hMem
  exact ne_append_of_cutAt_eq_none h (List.cons_ne_nil c []) left right hCs

/-- The pieces between the occurrences of a character do not contain it. -/
theorem notMem_of_mem_divide {c : Char} {cs piece : List Char}
    (h : piece ∈ divide [c] cs) :
    c ∉ piece := by
  fun_induction divide [c] cs with
  | case1 cs hCut =>
      rw [List.mem_singleton.mp h]
      exact notMem_of_cutAt_eq_none hCut
  | case2 cs before after hCut ih =>
      rcases List.mem_cons.mp h with rfl | hAfter
      · exact notMem_of_cutAt hCut
      · exact ih hAfter

/-- A piece behind a separator is divided off. -/
theorem divide_append_piece {c : Char} {cs piece : List Char} (h : c ∉ piece) :
    divide [c] (cs ++ c :: piece) = divide [c] cs ++ [piece] := by
  fun_induction divide [c] cs with
  | case1 cs hNone =>
      rw [divide_of_cutAt_eq_some
        (cutAt_append_of_notMem (notMem_of_cutAt_eq_none hNone) piece),
        divide_of_notMem h]
      rfl
  | case2 cs before after hCut ih =>
      have hCs := cutAt_eq_some hCut (List.cons_ne_nil c [])
      rw [hCs, List.append_assoc, List.singleton_append, List.cons_append,
        divide_of_cutAt_eq_some (cutAt_append_of_notMem (notMem_of_cutAt hCut) _), ih,
        List.cons_append]

/-! ## Characters that no separator has -/

section Foreign

variable {separator cs : List Char} {c : Char} (hForeign : c ∉ separator)
  (hSeparator : separator ≠ [])

include hForeign hSeparator

/-- A cut is not changed by such a character at the end. -/
private theorem cutAt_concat_of_notMem :
    cutAt separator (cs ++ [c]) = (cutAt separator cs).map fun (before, after) =>
      (before, after ++ [c]) := by
  cases hCut : cutAt separator cs with
  | none =>
      refine (cutAt_eq_none_iff hSeparator).mpr fun left right h => ?_
      obtain ⟨rest, -, hCs⟩ := exists_of_concat_eq hForeign hSeparator h
      exact (cutAt_eq_none_iff hSeparator).mp hCut left rest hCs
  | some pair =>
      obtain ⟨before, after⟩ := pair
      obtain ⟨hCs, hFirst⟩ := (cutAt_eq_some_iff hSeparator).mp hCut
      refine (cutAt_eq_some_iff hSeparator).mpr ⟨by rw [hCs]; simp,
        fun left right h => ?_⟩
      obtain ⟨rest, -, hRest⟩ := exists_of_concat_eq hForeign hSeparator h
      exact hFirst left rest hRest

theorem length_divide_cons_of_notMem :
    (divide separator (c :: cs)).length = (divide separator cs).length := by
  have hCut := @cutAt_cons_of_notMem separator cs hSeparator c hForeign
  cases hRest : cutAt separator cs with
  | none =>
      rw [hRest] at hCut
      rw [divide_of_cutAt_eq_none hCut, divide_of_cutAt_eq_none hRest]
      rfl
  | some pair =>
      rw [hRest] at hCut
      rw [divide_of_cutAt_eq_some hCut, divide_of_cutAt_eq_some hRest]
      rfl

theorem length_divide_concat_of_notMem :
    (divide separator (cs ++ [c])).length = (divide separator cs).length := by
  fun_induction divide separator cs with
  | case1 cs hNone =>
      have hCut := @cutAt_concat_of_notMem separator cs c hForeign hSeparator
      rw [hNone] at hCut
      rw [divide_of_cutAt_eq_none hCut]
      rfl
  | case2 cs before after hSome ih =>
      have hCut := @cutAt_concat_of_notMem separator cs c hForeign hSeparator
      rw [hSome] at hCut
      rw [divide_of_cutAt_eq_some hCut, List.length_cons, List.length_cons, ih]

end Foreign

end TextTemplate.Text
