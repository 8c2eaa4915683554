/-!
# Groups of pieces

A division puts pieces of a text together again: a piece goes on with the group before
it or starts a group of its own. What decides is the seam, that is the piece and all the
text before it, and never how that text has been grouped. So two ways to group the same
pieces can be compared seam by seam, and there is one group less than pieces for every
seam that is joined.

## Main results

* `groupFrom_eq_iff` — two ways to group give the same groups exactly if they agree at
  every seam.
* `length_groupFrom` — the number of groups.
* `seam_of_grouped` — a seam between groups is one between pieces that was not joined.
-/

namespace TextTemplate

/-- The place where a piece of a text meets all that stands before it. -/
structure Seam where
  before : List Char
  piece : List Char

/-- The seams of pieces that follow a text. -/
def seamsFrom (before : List Char) : List (List Char) → List Seam
  | [] => []
  | piece :: rest => ⟨before, piece⟩ :: seamsFrom (before ++ piece) rest

/-- The seams between pieces. -/
def seams : List (List Char) → List Seam
  | [] => []
  | first :: rest => seamsFrom first rest

/-- The groups of pieces that follow a text, from the last group of the text on. -/
def groupFrom (joins : Seam → Bool) (before group : List Char) :
    List (List Char) → List (List Char)
  | [] => [group]
  | piece :: rest =>
    if joins ⟨before, piece⟩
      then groupFrom joins (before ++ piece) (group ++ piece) rest
    else group :: groupFrom joins (before ++ piece) piece rest

/-- The groups of pieces that follow a text and do not go on with it. -/
def grouped (joins : Seam → Bool) (before : List Char) :
    List (List Char) → List (List Char)
  | [] => []
  | first :: rest => groupFrom joins (before ++ first) first rest

variable {joins joins' : Seam → Bool}

/-! ## Seams -/

private theorem map_piece_seamsFrom (before : List Char) (pieces : List (List Char)) :
    (seamsFrom before pieces).map Seam.piece = pieces := by
  induction pieces generalizing before with
  | nil => rfl
  | cons piece rest ih => rw [seamsFrom, List.map_cons, ih]

/-- Each piece but the first stands behind a seam. -/
private theorem map_piece_seams (pieces : List (List Char)) :
    (seams pieces).map Seam.piece = pieces.tail := by
  cases pieces with
  | nil => rfl
  | cons first rest => exact map_piece_seamsFrom first rest

theorem piece_mem_of_mem_seams {pieces : List (List Char)} {seam : Seam}
    (h : seam ∈ seams pieces) :
    seam.piece ∈ pieces := by
  apply List.mem_of_mem_tail
  rw [← map_piece_seams]
  exact List.mem_map_of_mem h

private theorem isPrefix_before {before : List Char} {pieces : List (List Char)}
    {seam : Seam} (h : seam ∈ seamsFrom before pieces) : before <+: seam.before := by
  induction pieces generalizing before with
  | nil => exact absurd h List.not_mem_nil
  | cons piece rest ih =>
      rcases List.mem_cons.mp h with rfl | hRest
      · exact List.prefix_rfl
      · exact (List.prefix_append before piece).trans (ih hRest)

/-! ## What the groups hold -/

private theorem flatten_groupFrom (before group : List Char)
    (pieces : List (List Char)) :
    (groupFrom joins before group pieces).flatten = group ++ pieces.flatten := by
  induction pieces generalizing before group with
  | nil => simp [groupFrom]
  | cons piece rest ih =>
      rw [groupFrom]
      split
      · rw [ih, List.flatten_cons, List.append_assoc]
      · rw [List.flatten_cons, ih, List.flatten_cons]

theorem flatten_grouped (before : List Char) (pieces : List (List Char)) :
    (grouped joins before pieces).flatten = pieces.flatten := by
  cases pieces with
  | nil => rfl
  | cons first rest => rw [grouped, flatten_groupFrom, List.flatten_cons]

private theorem ne_nil_of_mem_groupFrom {before group : List Char}
    {pieces : List (List Char)} (hGroup : group ≠ [])
    (hPieces : ∀ piece ∈ pieces, piece ≠ []) :
    ∀ found ∈ groupFrom joins before group pieces, found ≠ [] := by
  induction pieces generalizing before group with
  | nil => exact List.forall_mem_singleton.mpr hGroup
  | cons piece rest ih =>
      obtain ⟨hPiece, hRest⟩ := List.forall_mem_cons.mp hPieces
      rw [groupFrom]
      split
      · exact ih (List.append_ne_nil_of_left_ne_nil hGroup piece) hRest
      · exact List.forall_mem_cons.mpr ⟨hGroup, ih hPiece hRest⟩

theorem ne_nil_of_mem_grouped {before : List Char} {pieces : List (List Char)}
    (hPieces : ∀ piece ∈ pieces, piece ≠ []) :
    ∀ found ∈ grouped joins before pieces, found ≠ [] := by
  cases pieces with
  | nil => exact fun _ hMem => absurd hMem List.not_mem_nil
  | cons first rest =>
      obtain ⟨hFirst, hRest⟩ := List.forall_mem_cons.mp hPieces
      exact ne_nil_of_mem_groupFrom hFirst hRest

/-- The first group starts with what there was. -/
theorem exists_groupFrom (joins : Seam → Bool) (before group : List Char)
    (pieces : List (List Char)) :
    ∃ more others, groupFrom joins before group pieces = (group ++ more) :: others := by
  induction pieces generalizing before group with
  | nil => exact ⟨[], [], by rw [groupFrom, List.append_nil]⟩
  | cons piece rest ih =>
      rw [groupFrom]
      split
      · obtain ⟨more, others, hFirst⟩ := ih (before ++ piece) (group ++ piece)
        exact ⟨piece ++ more, others, by rw [hFirst, List.append_assoc]⟩
      · exact ⟨[], _, by rw [List.append_nil]⟩

/-! ## Which pieces are joined -/

/-- Where nothing is joined the pieces stay as they are. -/
private theorem groupFrom_never (before group : List Char) (pieces : List (List Char)) :
    groupFrom (fun _ => false) before group pieces = group :: pieces := by
  induction pieces generalizing before group with
  | nil => rfl
  | cons piece rest ih => rw [groupFrom, if_neg Bool.false_ne_true, ih]

/-- Pieces that hold something are grouped in the same way exactly if the same seams
are joined. -/
theorem groupFrom_eq_iff {pieces : List (List Char)}
    (hPieces : ∀ piece ∈ pieces, piece ≠ []) (before group : List Char) :
    groupFrom joins before group pieces = groupFrom joins' before group pieces ↔
      ∀ seam ∈ seamsFrom before pieces, joins seam = joins' seam := by
  induction pieces generalizing before group with
  | nil => simp [groupFrom, seamsFrom]
  | cons piece rest ih =>
      obtain ⟨hPiece, hRest⟩ := List.forall_mem_cons.mp hPieces
      -- Where only one of the two joins the piece, their first groups have different
      -- lengths.
      have hApart : ∀ joins : Seam → Bool, ∀ others,
          groupFrom joins (before ++ piece) (group ++ piece) rest ≠
            group :: others := by
        intro joins others hEq
        obtain ⟨more, _, hFirst⟩ :=
          exists_groupFrom joins (before ++ piece) (group ++ piece) rest
        rw [hFirst, List.cons.injEq, List.append_assoc] at hEq
        have hNil := List.append_right_eq_self.mp hEq.1
        exact hPiece (List.append_eq_nil_iff.mp hNil).1
      rw [groupFrom, groupFrom, seamsFrom, List.forall_mem_cons]
      cases hJoins : joins ⟨before, piece⟩ <;> cases hJoins' : joins' ⟨before, piece⟩
      · simpa using ih hRest (before ++ piece) piece
      · simpa using fun hEq => hApart joins' _ hEq.symm
      · simpa using hApart joins _
      · simpa using ih hRest (before ++ piece) (group ++ piece)

theorem grouped_eq_iff {pieces : List (List Char)}
    (hPieces : ∀ piece ∈ pieces, piece ≠ []) :
    grouped joins [] pieces = grouped joins' [] pieces ↔
      ∀ seam ∈ seams pieces, joins seam = joins' seam := by
  cases pieces with
  | nil => simp [grouped, seams]
  | cons first rest =>
      rw [grouped, grouped, List.nil_append, seams]
      exact groupFrom_eq_iff (List.forall_mem_cons.mp hPieces).2 first first

/-- The groups are the pieces exactly if no seam is joined. -/
theorem grouped_eq_self_iff {pieces : List (List Char)}
    (hPieces : ∀ piece ∈ pieces, piece ≠ []) :
    grouped joins [] pieces = pieces ↔ ∀ seam ∈ seams pieces, joins seam = false := by
  have hNever : grouped (fun _ => false) [] pieces = pieces := by
    cases pieces with
    | nil => rfl
    | cons first rest => exact groupFrom_never _ first rest
  rw [← @grouped_eq_iff joins (fun _ => false) pieces hPieces, hNever]

/-- Every seam that is joined makes one group less. -/
theorem length_groupFrom (before group : List Char) (pieces : List (List Char)) :
    (groupFrom joins before group pieces).length +
      (seamsFrom before pieces).countP joins =
      pieces.length + 1 := by
  induction pieces generalizing before group with
  | nil => rfl
  | cons piece rest ih =>
      rw [groupFrom, seamsFrom, List.countP_cons, List.length_cons]
      split
      · have hRest := ih (before ++ piece) (group ++ piece)
        omega
      · have hRest := ih (before ++ piece) piece
        rw [List.length_cons]
        omega

theorem length_grouped (pieces : List (List Char)) :
    (grouped joins [] pieces).length + (seams pieces).countP joins = pieces.length := by
  cases pieces with
  | nil => rfl
  | cons first rest => exact length_groupFrom first first rest

/-! ## Seams between groups -/

/-- Of the seams that groups make with the text before them, the first belongs to the
group that was there, and each further one comes from a seam that was not joined. -/
private theorem seam_of_groupFrom {front group : List Char} {pieces : List (List Char)}
    {seam : Seam}
    (h : seam ∈ seamsFrom front (groupFrom joins (front ++ group) group pieces)) :
    (seam.before = front ∧ group <+: seam.piece) ∨
      ∃ original ∈ seamsFrom (front ++ group) pieces, joins original = false ∧
        original.before = seam.before ∧ original.piece <+: seam.piece := by
  induction pieces generalizing front group with
  | nil =>
      rw [groupFrom, seamsFrom, seamsFrom, List.mem_singleton] at h
      subst h
      exact .inl ⟨rfl, List.prefix_rfl⟩
  | cons piece rest ih =>
      rw [groupFrom] at h
      split at h
      · rw [List.append_assoc] at h
        rcases ih h with ⟨hBefore, hPiece⟩ | ⟨original, hMem, hOriginal⟩
        · exact .inl ⟨hBefore, (List.prefix_append group piece).trans hPiece⟩
        · rw [← List.append_assoc] at hMem
          exact .inr ⟨original, List.mem_cons_of_mem _ hMem, hOriginal⟩
      · next hApart =>
        rw [seamsFrom] at h
        rcases List.mem_cons.mp h with rfl | hRest
        · exact .inl ⟨rfl, List.prefix_rfl⟩
        · rcases ih hRest with ⟨hBefore, hPiece⟩ | ⟨original, hMem, hOriginal⟩
          · exact .inr ⟨⟨front ++ group, piece⟩,
              List.mem_cons_self, by simpa using hApart, hBefore.symm, hPiece⟩
          · exact .inr ⟨original, List.mem_cons_of_mem _ hMem, hOriginal⟩

/-- A seam between groups is a seam between pieces that was not joined; its group starts
with the piece. -/
theorem seam_of_grouped {pieces : List (List Char)}
    (hPieces : ∀ piece ∈ pieces, piece ≠ []) {seam : Seam}
    (h : seam ∈ seams (grouped joins [] pieces)) :
    ∃ original ∈ seams pieces, joins original = false ∧ original.before = seam.before ∧
      original.piece <+: seam.piece := by
  cases pieces with
  | nil => exact absurd h List.not_mem_nil
  | cons first rest =>
      obtain ⟨more, others, hGroups⟩ := exists_groupFrom joins first first rest
      have hFirst : first ++ more ≠ [] :=
        List.append_ne_nil_of_left_ne_nil (hPieces first List.mem_cons_self) more
      rw [grouped, List.nil_append, hGroups, seams] at h
      have hSeam : seam ∈ seamsFrom [] (groupFrom joins ([] ++ first) first rest) := by
        rw [List.nil_append, hGroups]
        exact List.mem_cons_of_mem _ h
      rcases seam_of_groupFrom hSeam with ⟨hBefore, -⟩ | hOriginal
      · -- Something stands before every seam between groups.
        have hPrefix := isPrefix_before h
        rw [hBefore, List.prefix_nil] at hPrefix
        exact absurd hPrefix hFirst
      · exact hOriginal

end TextTemplate
