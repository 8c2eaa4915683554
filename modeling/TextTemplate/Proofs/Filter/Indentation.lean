import Mathlib
import TextTemplate.Proofs.Filter.Splitting

/-!
# Indenting lines

Indenting puts the same characters in front of some lines: of the first one if the flag
says so, of every later one that is not empty. Which lines these are does not change
when they are indented, so a second indentation goes in front of the first one and
widths add up. This needs that the unit has no line feed, since otherwise indenting
makes lines. An indentation without characters is not applied at all; the lines put
together again are the text, so nothing is lost by this shortcut.

## Main results

* `getElem?_indentLines` — what becomes of the line at a position.
* `linesOf_indentText` — the lines of an indented text.
* `indentText_indentText` — indenting twice.
* `indent_adds` — the same of the filter.
-/

namespace TextTemplate.Filter

open TextTemplate.Text

/-! ## Indentations -/

/-- An empty unit is no exception. -/
theorem copies_eq (count : Nat) (unit : List Char) :
    copies count unit = (List.replicate count unit).flatten := by
  cases unit with
  | nil => exact List.flatten_replicate_nil.symm
  | cons c rest => rfl

private theorem copies_append (a b : Nat) (unit : List Char) :
    copies b unit ++ copies a unit = copies (a + b) unit := by
  rw [copies_eq, copies_eq, copies_eq, ← List.flatten_append,
    List.replicate_append_replicate, Nat.add_comm]

private theorem notMem_copies {c : Char} {unit : List Char} (h : c ∉ unit)
    (count : Nat) : c ∉ copies count unit := by
  rw [copies_eq, List.mem_flatten]
  rintro ⟨copy, hCopy, hMem⟩
  rw [List.eq_of_mem_replicate hCopy] at hMem
  exact h hMem

/-! ## Lines -/

/-- The lines of a text. The last one is what stands behind the last line feed, so there
is always one. -/
def linesOf (text : String) : List (List Char) :=
  divide ['\n'] text.toList

/-- Whether the line at a position is indented. -/
def isIndented (first : Bool) (index : Nat) (line : List Char) : Bool :=
  if index = 0 then first else !line.isEmpty

theorem length_indentLines (indentation : List Char) (first : Bool)
    (lines : List (List Char)) :
    (indentLines indentation first lines).length = lines.length := by
  cases lines with
  | nil => rfl
  | cons line rest =>
      rw [indentLines, List.length_cons, List.length_map, List.length_cons]

theorem getElem?_indentLines (indentation : List Char) (first : Bool)
    (lines : List (List Char)) (index : Nat) :
    (indentLines indentation first lines)[index]? = lines[index]?.map fun line =>
      if isIndented first index line then indentation ++ line else line := by
  cases lines with
  | nil => rfl
  | cons line rest =>
      cases index with
      | zero => rfl
      | succ index =>
          rw [indentLines, List.getElem?_cons_succ, List.getElem?_cons_succ,
            List.getElem?_map]
          congr 1
          funext line
          cases line <;> rfl

/-- A line is indented if and only if it was, so that the second indentation stands in
front of the first one. -/
private theorem indentLines_indentLines (outer inner : List Char) (first : Bool)
    (lines : List (List Char)) :
    indentLines outer first (indentLines inner first lines) =
      indentLines (outer ++ inner) first lines := by
  refine List.ext_getElem? fun index => ?_
  rw [getElem?_indentLines, getElem?_indentLines, getElem?_indentLines, Option.map_map]
  congr 1
  funext line
  by_cases hIndented : isIndented first index line = true
  · have hStill : isIndented first index (inner ++ line) = true := by
      unfold isIndented at hIndented ⊢
      split at hIndented <;> simp_all
    simp [hIndented, hStill]
  · simp [hIndented]

private theorem indentLines_nil (first : Bool) (lines : List (List Char)) :
    indentLines [] first lines = lines := by
  refine List.ext_getElem? fun index => ?_
  simp [getElem?_indentLines]

/-- Lines stay lines if there is no line feed in what is put in front of them. -/
private theorem notMem_of_mem_indentLines {c : Char} {indentation line : List Char}
    {first : Bool} {lines : List (List Char)} (hIndentation : c ∉ indentation)
    (hLines : ∀ line ∈ lines, c ∉ line)
    (h : line ∈ indentLines indentation first lines) : c ∉ line := by
  obtain ⟨index, hIndex⟩ := List.mem_iff_getElem?.mp h
  rw [getElem?_indentLines, Option.map_eq_some_iff] at hIndex
  obtain ⟨original, hOriginal, rfl⟩ := hIndex
  have hNot := hLines original (List.mem_of_getElem? hOriginal)
  split
  · rw [List.mem_append]
    exact not_or_intro hIndentation hNot
  · exact hNot

/-! ## Texts -/

/-- The shortcut past the lines gives what the lines would have given. -/
theorem toList_indentText (text : String) (width : Nat) (unit : String) (first : Bool) :
    (indentText text width unit first).toList =
      ['\n'].intercalate (indentLines (copies width unit.toList) first
        (linesOf text)) := by
  rw [indentText]
  split
  · rename_i hEmpty
    rw [List.isEmpty_iff.mp hEmpty, indentLines_nil, linesOf,
      intercalate_divide _ _ (List.cons_ne_nil _ _)]
  · rw [String.toList_ofList, linesOf]

section

variable {unit : String} (hUnit : '\n' ∉ unit.toList)

include hUnit

/-- The lines of an indented text are the indented lines of the text. -/
theorem linesOf_indentText (text : String) (width : Nat) (first : Bool) :
    linesOf (indentText text width unit first) =
      indentLines (copies width unit.toList) first (linesOf text) := by
  have hLines : ∀ line ∈ indentLines (copies width unit.toList) first (linesOf text),
      '\n' ∉ line := fun line hMem =>
    notMem_of_mem_indentLines (notMem_copies hUnit width)
      (fun _ => notMem_of_mem_divide) hMem
  have hSome : indentLines (copies width unit.toList) first (linesOf text) ≠ [] := by
    rw [← List.length_pos_iff, length_indentLines, List.length_pos_iff]
    exact divide_ne_nil _ _
  rw [linesOf, toList_indentText, divide_intercalate (List.cons_ne_nil _ _) hSome]
  exact fun line hMem => notMem_singleton_of_notMem (hLines line hMem)

/-- Widths add up. -/
theorem indentText_indentText (text : String) (a b : Nat) (first : Bool) :
    indentText (indentText text a unit first) b unit first =
      indentText text (a + b) unit first := by
  rw [← String.toList_inj, toList_indentText, linesOf_indentText hUnit,
    indentLines_indentLines, copies_append, ← toList_indentText]

end

/-! ## The filter -/

private theorem indent_string (text unit : String) (width : Int64) (first : Bool) :
    indent (.string text) [.int width, .string unit, .bool first] =
      .ok (.string (indentText text width.toInt.toNat unit first)) := by
  show Except.ok (Value.string
    (indentText (Value.string text).print width.toInt.toNat unit first)) = _
  rw [print_string]

/-- What indenting does to lines: there are as many as before, each ends in what it was,
and an empty one that is not the first stays empty. In front of a line stands the
indentation or nothing. -/
structure IndentsLines (indentation : List Char) (first : Bool)
    (lines indented : List (List Char)) : Prop where
  length_eq : indented.length = lines.length
  isSuffix : ∀ (index : Nat) (line result : List Char),
    lines[index]? = some line → indented[index]? = some result → line <:+ result
  empty : ∀ index : Nat, 0 < index → lines[index]? = some [] →
    indented[index]? = some []
  indents : ∀ (index : Nat) (line : List Char), lines[index]? = some line →
    indented[index]? = some (if isIndented first index line
      then indentation ++ line else line)

private theorem indentsLines_indentLines (indentation : List Char) (first : Bool)
    (lines : List (List Char)) :
    IndentsLines indentation first lines (indentLines indentation first lines) where
  length_eq := length_indentLines indentation first lines
  isSuffix index line result hLine hResult := by
    rw [getElem?_indentLines, hLine, Option.map_some, Option.some_inj] at hResult
    rw [← hResult]
    split
    · exact List.suffix_append indentation line
    · exact List.suffix_rfl
  empty index hIndex hLine := by
    rw [getElem?_indentLines, hLine, Option.map_some, isIndented,
      if_neg (Nat.ne_of_gt hIndex)]
    rfl
  indents index line hLine := by
    rw [getElem?_indentLines, hLine, Option.map_some]

/-- With a unit that has no line feed, indenting by one width and then by another one
gives what indenting by their sum gives, as long as the sum is a whole number of 64
bits; and for every width the lines of the text come out as lines of the result. -/
theorem indent_adds {unit : String} (hUnit : '\n' ∉ unit.toList) (text : String)
    (first : Bool) :
    (∀ a b : Nat, isInt64 (a + b) = true → ∃ once whole : String,
      indent (.string text) [.int (Int64.ofNat a), .string unit, .bool first] =
        .ok (.string once) ∧
      indent (.string once) [.int (Int64.ofNat b), .string unit, .bool first] =
        .ok (.string whole) ∧
      indent (.string text) [.int (Int64.ofNat (a + b)), .string unit, .bool first] =
        .ok (.string whole)) ∧
    ∀ width : Int64, ∃ indented : String,
      indent (.string text) [.int width, .string unit, .bool first] =
        .ok (.string indented) ∧
      IndentsLines (copies width.toInt.toNat unit.toList) first (linesOf text)
        (linesOf indented) := by
  constructor
  · intro a b hSum
    have hWidth : ∀ n : Nat, n ≤ a + b → (Int64.ofNat n).toInt.toNat = n := by
      intro n hLe
      simp only [isInt64, Int64.toInt_minValue, Int64.toInt_maxValue, Bool.and_eq_true,
        decide_eq_true_eq] at hSum
      rw [Int64.toInt_ofNat_of_lt (by omega), Int.toNat_natCast]
    refine ⟨_, _, indent_string .., indent_string .., ?_⟩
    rw [indent_string, hWidth a (Nat.le_add_right a b), hWidth b (Nat.le_add_left b a),
      hWidth (a + b) (Nat.le_refl _), indentText_indentText hUnit]
  · intro width
    refine ⟨_, indent_string .., ?_⟩
    rw [linesOf_indentText hUnit]
    exact indentsLines_indentLines _ _ _

/-- The first line is empty and indented, and the text has empty lines in the middle and
at the end. -/
theorem indent_adds_of_empty_lines :
    let text := "\n\na\n b\n"
    let unit := "->"
    ('\n' ∉ unit.toList ∧ isInt64 ((1 : Nat) + (2 : Nat)) = true) ∧ ∃ once : String,
      indent (.string text) [.int 1, .string unit, .bool true] = .ok (.string once) ∧
      indent (.string once) [.int 2, .string unit, .bool true] =
        .ok (.string "->->->\n\n->->->a\n->->-> b\n") := by
  intro text unit
  have hUnit : '\n' ∉ unit.toList := by decide
  have hSum : isInt64 ((1 : Nat) + (2 : Nat)) = true := by decide
  obtain ⟨once, whole, hOnce, hTwice, hWhole⟩ :=
    (indent_adds hUnit text true).1 1 2 hSum
  have hResult : indent (.string text) [.int 3, .string unit, .bool true] =
      .ok (.string "->->->\n\n->->->a\n->->-> b\n") := by cbv
  exact ⟨⟨hUnit, hSum⟩, once, hOnce, hTwice.trans (hWhole.symm.trans hResult)⟩

end TextTemplate.Filter
