import Mathlib.Order.Bounds.Basic
import TextTemplate.Text.EditDistance

/-!
# The table computes the least number of edits

An edit puts a character in, takes one out or replaces one, anywhere in a text.
`distance` fills a table row by row, and an entry of the table belongs to two
beginnings. The recursion `leastEdits` takes the same three choices at the heads of two
lists, so that an entry is its value for the beginnings read backwards. One step of the
recursion is one edit; conversely one edit changes the value by one at most, so that no
way of edits is shorter.

## Main results

* `nextRow_entries`, `distanceChars_eq` — the entries of a row, and the last entry of
  the table.
* `leastEdits_le_of_edited` — what one edit can change.
* `isLeast_distance` — the distance of two texts is the least number of edits
  between them.
-/

namespace TextTemplate.Text

/-! ## Edits -/

/-- One edit turns the first text into the second. -/
inductive Edited : List Char → List Char → Prop where
  | insert (before after : List Char) (c : Char) :
      Edited (before ++ after) (before ++ c :: after)
  | delete (before after : List Char) (c : Char) :
      Edited (before ++ c :: after) (before ++ after)
  | replace (before after : List Char) (c d : Char) :
      Edited (before ++ c :: after) (before ++ d :: after)

/-- A number of edits, one after the other, turn the first text into the second. -/
inductive Edits : Nat → List Char → List Char → Prop where
  | none (cs : List Char) : Edits 0 cs cs
  | step {count : Nat} {source between target : List Char}
      (first : Edited source between)
      (others : Edits count between target) : Edits (count + 1) source target

theorem Edited.cons {source target : List Char} (h : Edited source target) (c : Char) :
    Edited (c :: source) (c :: target) := by
  cases h with
  | insert before after d => exact .insert (c :: before) after d
  | delete before after d => exact .delete (c :: before) after d
  | replace before after d e => exact .replace (c :: before) after d e

theorem Edited.reverse {source target : List Char} (h : Edited source target) :
    Edited source.reverse target.reverse := by
  cases h with
  | insert before after c => simpa using Edited.insert after.reverse before.reverse c
  | delete before after c => simpa using Edited.delete after.reverse before.reverse c
  | replace before after c d =>
      simpa using Edited.replace after.reverse before.reverse c d

theorem Edits.cons {count : Nat} {source target : List Char}
    (h : Edits count source target) (c : Char) :
    Edits count (c :: source) (c :: target) := by
  induction h with
  | none cs => exact .none (c :: cs)
  | step first _ ih => exact .step (first.cons c) ih

theorem Edits.reverse {count : Nat} {source target : List Char}
    (h : Edits count source target) :
    Edits count source.reverse target.reverse := by
  induction h with
  | none cs => exact .none cs.reverse
  | step first _ ih => exact .step first.reverse ih

/-! ## The recursion -/

/-- The least number of edits between two texts, from what becomes of the first
character: it is taken out, another one is put in before it, or it is kept or
replaced. -/
def leastEdits : List Char → List Char → Nat
  | [], target => target.length
  | source, [] => source.length
  | c :: source, d :: target =>
    min (min (leastEdits (c :: source) target + 1)
      (leastEdits source (d :: target) + 1))
      (if c == d then leastEdits source target else leastEdits source target + 1)

private theorem leastEdits_nil_left (target : List Char) :
    leastEdits [] target = target.length := by
  rw [leastEdits]

private theorem leastEdits_nil_right (source : List Char) :
    leastEdits source [] = source.length := by
  cases source <;> simp [leastEdits]

private theorem leastEdits_cons_cons (c d : Char) (source target : List Char) :
    leastEdits (c :: source) (d :: target) =
      min (min (leastEdits (c :: source) target + 1)
        (leastEdits source (d :: target) + 1))
        (if c == d then leastEdits source target
          else leastEdits source target + 1) := by
  rw [leastEdits]

/-! ## The table -/

/-- The entries of a row: the values for the characters read so far and every longer
beginning of the target. All beginnings are read backwards. -/
def entries (source reached : List Char) : List Char → List Nat
  | [] => []
  | d :: target =>
    leastEdits source (d :: reached) :: entries source (d :: reached) target

/-- The next row belongs to one more character of the source. -/
theorem nextRow_entries (c : Char) (source reached target : List Char) :
    nextRow c (leastEdits (c :: source) reached) (leastEdits source reached) target
      (entries source reached target) = entries (c :: source) reached target := by
  induction target generalizing reached with
  | nil => rfl
  | cons d target ih => rw [entries, nextRow, ← leastEdits_cons_cons, ih, entries]

/-- The last entry of a row belongs to the whole target. -/
private theorem getLast_entries (source reached target : List Char)
    (h : leastEdits source reached :: entries source reached target ≠ []) :
    (leastEdits source reached :: entries source reached target).getLast h =
      leastEdits source (target.reverse ++ reached) := by
  induction target generalizing reached with
  | nil => rfl
  | cons d target ih =>
      simp only [entries]
      rw [List.getLast_cons (List.cons_ne_nil _ _), ih, List.reverse_cons,
        List.append_assoc, List.singleton_append]

/-- The first row counts. -/
private theorem entries_nil (reached target : List Char) :
    entries [] reached target =
      (List.range target.length).map (reached.length + 1 + ·) := by
  induction target generalizing reached with
  | nil => rfl
  | cons d target ih =>
      rw [entries, ih, leastEdits_nil_left, List.length_cons, List.length_cons,
        List.range_succ_eq_map, List.map_cons, List.map_map, Nat.add_zero]
      congr 1
      refine List.map_congr_left fun index _ => ?_
      simp only [Function.comp_apply]
      omega

private theorem lastEntry_entries (source read target : List Char) :
    lastEntry target read.length (entries read [] target) source =
      leastEdits (source.reverse ++ read) target.reverse := by
  induction source generalizing read with
  | nil =>
      have hFirst := leastEdits_nil_right read
      have hLast := getLast_entries read [] target (List.cons_ne_nil _ _)
      rw [List.append_nil] at hLast
      rw [lastEntry, List.reverse_nil, List.nil_append, ← hLast]
      simp only [hFirst]
  | cons c source ih =>
      have hRow := nextRow_entries c read [] target
      rw [leastEdits_nil_right, leastEdits_nil_right, List.length_cons] at hRow
      have hRest := ih (c :: read)
      rw [List.length_cons] at hRest
      rw [lastEntry, hRow, hRest, List.reverse_cons, List.append_assoc,
        List.singleton_append]

/-- The table ends in the value of the recursion for both texts read backwards. -/
theorem distanceChars_eq (source target : List Char) :
    distanceChars source target = leastEdits source.reverse target.reverse := by
  have hFirst : (List.range target.length).map (· + 1) = entries [] [] target := by
    rw [entries_nil]
    exact List.map_congr_left fun index _ => Nat.add_comm index 1
  have hTable := lastEntry_entries source [] target
  rw [List.append_nil] at hTable
  rw [distanceChars, hFirst]
  exact hTable

/-! ## Every value is reached -/

private theorem edits_insert_all (target : List Char) :
    Edits target.length [] target := by
  induction target with
  | nil => exact .none []
  | cons d target ih => exact .step (.insert [] [] d) (ih.cons d)

private theorem edits_delete_all (source : List Char) :
    Edits source.length source [] := by
  induction source with
  | nil => exact .none []
  | cons c source ih => exact .step (.delete [] source c) ih

/-- So many edits lead from one text to the other. -/
private theorem edits_leastEdits (source target : List Char) :
    Edits (leastEdits source target) source target := by
  fun_induction leastEdits source target with
  | case1 target => exact edits_insert_all target
  | case2 source _ => exact edits_delete_all source
  | case3 c source d target ihInsert ihDelete ihKeep =>
      have hInsert : Edits (leastEdits (c :: source) target + 1) (c :: source)
          (d :: target) :=
        .step (.insert [] (c :: source) d) (ihInsert.cons d)
      have hDelete : Edits (leastEdits source (d :: target) + 1) (c :: source)
          (d :: target) :=
        .step (.delete [] source c) ihDelete
      have hKeep : Edits (if c == d then leastEdits source target
          else leastEdits source target + 1) (c :: source) (d :: target) := by
        split
        · rename_i hSame
          rw [beq_iff_eq.mp hSame]
          exact ihKeep.cons d
        · exact .step (.replace [] source c d) (ihKeep.cons d)
      exact min_rec' (fun count => Edits count (c :: source) (d :: target))
        (min_rec' (fun count => Edits count (c :: source) (d :: target))
          hInsert hDelete) hKeep

/-! ## No way is shorter -/

/-- Another character of the target costs one edit at most. -/
private theorem leastEdits_cons_right_le (source target : List Char) (d : Char) :
    leastEdits source (d :: target) ≤ leastEdits source target + 1 := by
  cases source with
  | nil => rw [leastEdits_nil_left, leastEdits_nil_left, List.length_cons]
  | cons c source =>
      rw [leastEdits_cons_cons]
      exact (min_le_left _ _).trans (min_le_left _ _)

private theorem leastEdits_cons_left_le (source target : List Char) (c : Char) :
    leastEdits (c :: source) target ≤ leastEdits source target + 1 := by
  cases target with
  | nil => rw [leastEdits_nil_right, leastEdits_nil_right, List.length_cons]
  | cons d target =>
      rw [leastEdits_cons_cons]
      exact (min_le_left _ _).trans (min_le_right _ _)

/-- Two sources that are one edit apart stay so behind a common character. -/
private theorem leastEdits_cons_le_of_le {source between : List Char}
    (h : ∀ target, leastEdits source target ≤ leastEdits between target + 1) (c : Char)
    (target : List Char) :
    leastEdits (c :: source) target ≤ leastEdits (c :: between) target + 1 := by
  induction target with
  | nil =>
      have hLength := h []
      rw [leastEdits_nil_right, leastEdits_nil_right] at hLength ⊢
      simpa using hLength
  | cons d target ih =>
      have hDelete := h (d :: target)
      have hKeep := h target
      rw [leastEdits_cons_cons, leastEdits_cons_cons]
      split <;> omega

private theorem leastEdits_insert_le (source target : List Char) (c : Char) :
    leastEdits source target ≤ leastEdits (c :: source) target + 1 := by
  induction target with
  | nil =>
      rw [leastEdits_nil_right, leastEdits_nil_right, List.length_cons]
      omega
  | cons d target ih =>
      have hMore := leastEdits_cons_right_le source target d
      rw [leastEdits_cons_cons]
      split <;> omega

private theorem leastEdits_replace_le (source target : List Char) (c e : Char) :
    leastEdits (c :: source) target ≤ leastEdits (e :: source) target + 1 := by
  induction target with
  | nil => simp [leastEdits_nil_right]
  | cons d target ih =>
      rw [leastEdits_cons_cons, leastEdits_cons_cons]
      split <;> split <;> omega

/-- One edit of the source changes the value by one at most. -/
theorem leastEdits_le_of_edited {source between : List Char} (h : Edited source between)
    (target : List Char) :
    leastEdits source target ≤ leastEdits between target + 1 := by
  -- What stands in front of the edit is common to both; it is added character by
  -- character.
  have hBefore : ∀ (before source between : List Char),
      (∀ target, leastEdits source target ≤ leastEdits between target + 1) → ∀ target,
        leastEdits (before ++ source) target ≤
          leastEdits (before ++ between) target + 1 := by
    intro before source between hAfter
    induction before with
    | nil => exact hAfter
    | cons c before ih => exact leastEdits_cons_le_of_le ih c
  cases h with
  | insert before after c =>
      exact hBefore _ _ _ (fun target => leastEdits_insert_le after target c) target
  | delete before after c =>
      exact hBefore _ _ _ (fun target => leastEdits_cons_left_le after target c) target
  | replace before after c d =>
      exact hBefore _ _ _ (fun target => leastEdits_replace_le after target c d) target

private theorem leastEdits_self (cs : List Char) : leastEdits cs cs = 0 := by
  induction cs with
  | nil => rw [leastEdits_nil_left, List.length_nil]
  | cons c cs ih => simp [leastEdits_cons_cons, ih]

private theorem leastEdits_le_of_edits {count : Nat} {source target : List Char}
    (h : Edits count source target) :
    leastEdits source target ≤ count := by
  induction h with
  | none cs => exact Nat.le_of_eq (leastEdits_self cs)
  | step first _ ih =>
      exact (leastEdits_le_of_edited first _).trans (Nat.succ_le_succ ih)

/-! ## The distance -/

/-- The distance is the least number of edits that turn one text into the other. -/
theorem isLeast_distance (source target : String) :
    IsLeast {count | Edits count source.toList target.toList}
      (distance source target) := by
  rw [distance, distanceChars_eq]
  constructor
  · have hEdits :=
      (edits_leastEdits source.toList.reverse target.toList.reverse).reverse
    rwa [List.reverse_reverse, List.reverse_reverse] at hEdits
  · exact fun _ hEdits => leastEdits_le_of_edits hEdits.reverse

end TextTemplate.Text
