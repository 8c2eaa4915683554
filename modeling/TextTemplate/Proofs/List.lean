import Mathlib.Data.String.Basic

/-!
# Lists and texts

What the rest of the theory needs of lists and texts in general and the library does not
state in the form needed.

## Main results

* `findSome?_eq_some_iff_getElem?` — the first hit of a search, by its position.
* `mem_eraseReps`, `pairwise_eraseReps` — a sorted list without its repetitions.
* `length_le_utf8ByteSize` — a text has at least as many bytes as characters.
-/

namespace TextTemplate

variable {α β : Type}

/-! ## Members -/

theorem beq_false_of_notMem [BEq α] [LawfulBEq α] {a : α} {items : List α}
    (h : a ∉ items) : ∀ b ∈ items, (b == a) = false :=
  fun _ hMem => beq_false_of_ne (ne_of_mem_of_not_mem hMem h)

theorem bne_of_notMem [BEq α] [LawfulBEq α] {a : α} {items : List α} (h : a ∉ items) :
    ∀ b ∈ items, (b != a) = true :=
  fun _ hMem => bne_iff_ne.mpr (ne_of_mem_of_not_mem hMem h)

theorem notMem_singleton_of_notMem {a : α} {items : List α} (h : a ∉ items) :
    ∀ b ∈ items, b ∉ [a] :=
  fun _ hMem hSame => ne_of_mem_of_not_mem hMem h (List.mem_singleton.mp hSame)

theorem filter_cons_of_ne_nil {piece : List α} (h : piece ≠ [])
    (pieces : List (List α)) :
    ((piece :: pieces).filter fun run => !run.isEmpty) =
      piece :: pieces.filter fun run => !run.isEmpty :=
  List.filter_cons_of_pos (by simpa using h)

/-! ## Both ends -/

/-- A list of items with a property begins another one if it begins the part in front of
the first item without the property. -/
theorem isPrefixOf_takeWhile [BEq α] [LawfulBEq α] {p : α → Bool} {front : List α}
    (hFront : ∀ a ∈ front, p a = true) (items : List α) :
    front.isPrefixOf (items.takeWhile p) = front.isPrefixOf items := by
  rw [Bool.eq_iff_iff, List.isPrefixOf_iff_prefix, List.isPrefixOf_iff_prefix]
  constructor
  · exact fun h => h.trans (List.takeWhile_prefix _)
  · rintro ⟨behind, rfl⟩
    rw [List.takeWhile_append_of_pos hFront]
    exact List.prefix_append _ _

/-- It is that part if no item with the property follows. -/
theorem takeWhile_append_eq_self_iff {p : α → Bool} {front : List α}
    (hFront : ∀ a ∈ front, p a = true) (behind : List α) :
    (front ++ behind).takeWhile p = front ↔
      ∀ a, behind.head? = some a → p a = false := by
  rw [List.takeWhile_append_of_pos hFront, List.append_right_eq_self]
  cases behind with
  | nil => simp
  | cons a rest => simp [List.takeWhile_cons]

/-- A part that does not hold the last item leaves it in what stands behind the part. -/
theorem exists_of_concat_eq {part items : List α} {a : α} (hForeign : a ∉ part)
    (hPart : part ≠ []) {left right : List α}
    (h : items ++ [a] = left ++ (part ++ right)) :
    ∃ rest, right = rest ++ [a] ∧ items = left ++ (part ++ rest) := by
  have hLast := congrArg List.getLast? h
  rw [List.getLast?_concat] at hLast
  obtain rfl | ⟨rest, b, rfl⟩ := List.eq_nil_or_concat right
  · have hEnd : a ∈ part := by
      rw [List.append_nil, List.getLast?_append, List.getLast?_eq_some_getLast hPart,
        Option.some_or] at hLast
      rw [Option.some.inj hLast]
      exact List.getLast_mem hPart
    exact absurd hEnd hForeign
  · rw [List.concat_eq_append] at h hLast ⊢
    rw [← List.append_assoc part, ← List.append_assoc left, List.getLast?_concat]
      at hLast
    cases hLast
    rw [← List.append_assoc part, ← List.append_assoc left] at h
    exact ⟨rest, rfl, List.append_cancel_right h⟩

/-! ## The first hit -/

/-- The first hit of a search has a position, and nothing before it is a hit. -/
theorem findSome?_eq_some_iff_getElem? {f : α → Option β} {items : List α} {hit : β} :
    items.findSome? f = some hit ↔
      ∃ (i : Nat) (item : α), items[i]? = some item ∧ f item = some hit ∧
        ∀ (j : Nat) (other : α), j < i → items[j]? = some other → f other = none := by
  rw [List.findSome?_eq_some_iff]
  constructor
  · rintro ⟨before, item, behind, rfl, hHit, hBefore⟩
    refine ⟨before.length, item, by simp, hHit, fun j other hj hOther => ?_⟩
    rw [List.getElem?_append_left hj] at hOther
    exact hBefore other (List.mem_of_getElem? hOther)
  · rintro ⟨i, item, hItem, hHit, hBefore⟩
    obtain ⟨hi, rfl⟩ := List.getElem?_eq_some_iff.mp hItem
    refine ⟨items.take i, items[i], items.drop (i + 1), ?_, hHit,
      fun other hOther => ?_⟩
    · rw [List.getElem_cons_drop, List.take_append_drop]
    · obtain ⟨j, hj, rfl⟩ := List.mem_take_iff_getElem.mp hOther
      exact hBefore j _ (by omega) (List.getElem?_eq_getElem _)

/-! ## Repetitions next to each other -/

section Repetitions

variable [BEq α]

private theorem eraseReps_cons_cons (a b : α) (rest : List α) :
    (a :: b :: rest).eraseReps =
      if a == b then (a :: rest).eraseReps else a :: (b :: rest).eraseReps := by
  have hKept : ∀ (last : α) (rest kept : List α),
      List.eraseRepsBy.loop (· == ·) last rest kept =
        kept.reverse ++ List.eraseRepsBy.loop (· == ·) last rest [] := by
    intro last rest
    induction rest generalizing last with
    | nil => intro kept; simp [List.eraseRepsBy.loop]
    | cons next rest ih =>
        intro kept
        simp only [List.eraseRepsBy.loop]
        split
        · exact ih last kept
        · rw [ih next (last :: kept), ih next [last]]
          simp
  simp only [List.eraseReps, List.eraseRepsBy, List.eraseRepsBy.loop]
  cases a == b with
  | true => rfl
  | false => exact hKept b rest [a]

variable [LawfulBEq α]

theorem mem_eraseReps {a : α} {items : List α} : a ∈ items.eraseReps ↔ a ∈ items := by
  induction items with
  | nil => rfl
  | cons first rest ih =>
      cases rest with
      | nil => rfl
      | cons second rest =>
          rw [eraseReps_cons_cons]
          split
          · rename_i hSame
            rw [beq_iff_eq.mp hSame, ih]
            simp
          · rw [List.mem_cons, ih]
            exact List.mem_cons.symm

/-- In a sorted list equal items are neighbours, so none is left twice. -/
theorem pairwise_eraseReps {le : α → α → Prop}
    (hAntisymm : ∀ a b, le a b → le b a → a = b) {items : List α}
    (h : items.Pairwise le) :
    items.eraseReps.Pairwise fun a b => le a b ∧ a ≠ b := by
  induction items with
  | nil => exact List.Pairwise.nil
  | cons first rest ih =>
      obtain ⟨hFirst, hRest⟩ := List.pairwise_cons.mp h
      cases rest with
      | nil => exact List.pairwise_singleton _ _
      | cons second rest =>
          rw [eraseReps_cons_cons]
          split
          · rename_i hSame
            rw [beq_iff_eq.mp hSame]
            exact ih hRest
          · rename_i hDiffers
            have hSecond := (List.pairwise_cons.mp hRest).1
            refine List.pairwise_cons.mpr ⟨fun other hOther => ?_, ih hRest⟩
            have hMem := mem_eraseReps.mp hOther
            refine ⟨hFirst other hMem, ?_⟩
            rintro rfl
            refine hDiffers (beq_iff_eq.mpr ?_)
            rcases List.mem_cons.mp hMem with hSame | hBehind
            · exact hSame
            · exact hAntisymm first second (hFirst second List.mem_cons_self)
                (hSecond first hBehind)

end Repetitions

/-! ## Texts -/

theorem map_toList_map_ofList (lists : List (List Char)) :
    (lists.map String.ofList).map String.toList = lists := by
  rw [List.map_map]
  exact (List.map_congr_left fun cs _ => String.toList_ofList).trans
    (List.map_id' lists)

theorem map_ofList_eq_iff {lists : List (List Char)} {texts : List String} :
    lists.map String.ofList = texts ↔ lists = texts.map String.toList := by
  constructor
  · rintro rfl
    exact (map_toList_map_ofList lists).symm
  · rintro rfl
    simp [Function.comp_def]

theorem length_le_utf8ByteSize (text : String) : text.length ≤ text.utf8ByteSize := by
  rw [← String.length_toList, ← String.ofList_toList (s := text),
    String.utf8ByteSize_ofList, String.toList_ofList]
  induction text.toList with
  | nil => exact Nat.le_refl 0
  | cons c cs ih =>
      have := c.utf8Size_pos
      rw [List.length_cons, String.utf8Len_cons]
      omega

end TextTemplate
