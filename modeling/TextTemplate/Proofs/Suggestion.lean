import Mathlib
import TextTemplate.Proofs.List
import TextTemplate.Proofs.Text.EditDistance
import TextTemplate.Suggestion

/-!
# The suggestions are the nearest names

A ranking holds every known name that is neither the mistyped one nor too far from it,
once, in a strict order: by distance, and by text at the same distance. There is only
one, and the suggestions are its first three.

How far is too far depends on the length of the name, and `suggestionReach` takes
the length in bytes. For a name of up to three characters that has more than three
bytes, the ranking goes one edit farther than for other names of so few characters.
What it holds more stands at its end, so it is seen only where fewer than three
names are nearer.

## Main results

* `ranking_ranked`, `Ranking.eq` — the sorted names are the ranking, and there is
  no other.
* `Ranking.exists_eq_append` — a farther reach adds names at the end.
* `suggestions_ranked` — what is suggested, and when the length in characters would
  suggest the same.
-/

namespace TextTemplate

open TextTemplate.Text

/-! ## Rankings -/

/-- One candidate stands before another: it is nearer to the name, or as near and first
by text. -/
def StandsBefore (name first second : String) : Prop :=
  distance name first < distance name second ∨
    distance name first = distance name second ∧ first < second

instance (name : String) : Std.Irrefl (StandsBefore name) where
  irrefl candidate h := h.elim (Nat.lt_irrefl _) fun ⟨_, hText⟩ =>
    lt_irrefl candidate hText

instance (name : String) : Std.Antisymm (StandsBefore name) where
  antisymm first second h hBack := by
    rcases h with hNearer | ⟨hSame, hText⟩
    · rcases hBack with hBack | ⟨hBack, -⟩ <;> omega
    · rcases hBack with hBack | ⟨-, hBack⟩
      · omega
      · exact absurd hText (lt_asymm hBack)

/-- The distinct known names that are at least one and at most `reach` edits away from a
name, in order. -/
structure Ranking (name : String) (reach : Nat) (known ranked : List String) :
    Prop where
  mem_iff (candidate : String) : candidate ∈ ranked ↔
    candidate ∈ known ∧ 1 ≤ distance name candidate ∧ distance name candidate ≤ reach
  ordered : ranked.Pairwise (StandsBefore name)

theorem Ranking.eq {name : String} {reach : Nat} {known ranked others : List String}
    (h : Ranking name reach known ranked) (hOthers : Ranking name reach known others) :
    ranked = others :=
  h.ordered.eq_of_mem_iff hOthers.ordered fun candidate =>
    (h.mem_iff candidate).trans (hOthers.mem_iff candidate).symm

/-- The known names within a reach, with their distances. -/
def nearEntries (name : String) (reach : Nat) (known : List String) :
    List (Nat × String) :=
  (known.map fun candidate => (distance name candidate, candidate)).filter
    fun entry => 0 < entry.1 && entry.1 ≤ reach

/-- The known names within a reach, sorted and without repetitions. -/
def ranking (name : String) (reach : Nat) (known : List String) : List String :=
  (((nearEntries name reach known).mergeSort suggestionLe).eraseReps).map Prod.snd

private theorem suggestions_eq_take (name : String) (known : List String) :
    suggestions name known = (ranking name (suggestionReach name) known).take 3 :=
  List.map_take

private theorem suggestionLe_iff {a b : Nat × String} :
    suggestionLe a b = true ↔ a.1 < b.1 ∨ a.1 = b.1 ∧ a.2 ≤ b.2 := by
  simp [suggestionLe]

private theorem suggestionLe_trans (a b c : Nat × String)
    (hFirst : suggestionLe a b = true) (hSecond : suggestionLe b c = true) :
    suggestionLe a c = true := by
  rw [suggestionLe_iff] at *
  rcases hFirst with hFirst | ⟨hSame, hFirst⟩ <;>
    rcases hSecond with hSecond | ⟨hSame', hSecond⟩
  · exact Or.inl (by omega)
  · exact Or.inl (by omega)
  · exact Or.inl (by omega)
  · exact Or.inr ⟨hSame.trans hSame', le_trans hFirst hSecond⟩

private theorem suggestionLe_total (a b : Nat × String) :
    (suggestionLe a b || suggestionLe b a) = true := by
  rw [Bool.or_eq_true, suggestionLe_iff, suggestionLe_iff]
  rcases Nat.lt_trichotomy a.1 b.1 with h | h | h
  · exact Or.inl (Or.inl h)
  · exact (le_total a.2 b.2).imp (fun hLe => Or.inr ⟨h, hLe⟩)
      (fun hLe => Or.inr ⟨h.symm, hLe⟩)
  · exact Or.inr (Or.inl h)

private theorem suggestionLe_antisymm (a b : Nat × String) (h : suggestionLe a b = true)
    (hBack : suggestionLe b a = true) : a = b := by
  rw [suggestionLe_iff] at h hBack
  have hDistance : a.1 = b.1 := by omega
  have hText : a.2 = b.2 := by
    refine le_antisymm ?_ ?_
    · exact (h.resolve_left (by omega)).2
    · exact (hBack.resolve_left (by omega)).2
  exact Prod.ext hDistance hText

private theorem mem_nearEntries {name : String} {reach : Nat} {known : List String}
    {entry : Nat × String} :
    entry ∈ nearEntries name reach known ↔
      (entry.2 ∈ known ∧ entry.1 = distance name entry.2) ∧ 1 ≤ entry.1 ∧
        entry.1 ≤ reach := by
  rw [nearEntries, List.mem_filter, List.mem_map, Bool.and_eq_true, decide_eq_true_eq,
    decide_eq_true_eq]
  refine and_congr_left fun _ => ⟨?_, ?_⟩
  · rintro ⟨candidate, hKnown, rfl⟩
    exact ⟨hKnown, rfl⟩
  · rintro ⟨hKnown, hDistance⟩
    exact ⟨entry.2, hKnown, Prod.ext hDistance.symm rfl⟩

/-- The sorted names are the ranking. -/
theorem ranking_ranked (name : String) (reach : Nat) (known : List String) :
    Ranking name reach known (ranking name reach known) := by
  have hSorted := pairwise_eraseReps suggestionLe_antisymm
    (List.pairwise_mergeSort suggestionLe_trans suggestionLe_total
      (nearEntries name reach known))
  have hEntry : ∀ entry,
      entry ∈ ((nearEntries name reach known).mergeSort suggestionLe).eraseReps ↔
        entry ∈ nearEntries name reach known :=
    fun entry => mem_eraseReps.trans List.mem_mergeSort
  refine ⟨fun candidate => ?_, List.pairwise_map.mpr (hSorted.imp_of_mem ?_)⟩
  · rw [ranking, List.mem_map]
    constructor
    · rintro ⟨entry, hMem, rfl⟩
      obtain ⟨⟨hKnown, hDistance⟩, hReach⟩ :=
        mem_nearEntries.mp ((hEntry entry).mp hMem)
      exact ⟨hKnown, hDistance ▸ hReach⟩
    · rintro ⟨hKnown, hReach⟩
      have hNear : (distance name candidate, candidate) ∈
          nearEntries name reach known :=
        mem_nearEntries.mpr ⟨⟨hKnown, rfl⟩, hReach⟩
      exact ⟨_, (hEntry _).mpr hNear, rfl⟩
  · rintro first second hFirst hSecond ⟨hLe, hDiffers⟩
    have hFirstDistance := (mem_nearEntries.mp ((hEntry first).mp hFirst)).1.2
    have hSecondDistance := (mem_nearEntries.mp ((hEntry second).mp hSecond)).1.2
    rw [StandsBefore, ← hFirstDistance, ← hSecondDistance]
    refine (suggestionLe_iff.mp hLe).imp_right fun ⟨hSame, hText⟩ => ⟨hSame,
      lt_of_le_of_ne hText ?_⟩
    exact fun hTexts => hDiffers (Prod.ext hSame hTexts)

/-- A reach that is one farther adds the names at that distance behind the others. -/
theorem Ranking.exists_eq_append {name : String} {reach : Nat}
    {known near ranked : List String} (hNear : Ranking name reach known near)
    (h : Ranking name (reach + 1) known ranked) :
    ∃ far, ranked = near ++ far ∧
      ∀ candidate, candidate ∈ far ↔
        candidate ∈ known ∧ distance name candidate = reach + 1 := by
  have hFar : ∀ candidate,
      candidate ∈ ranked.filter (fun other => distance name other == reach + 1) ↔
        candidate ∈ known ∧ distance name candidate = reach + 1 := by
    intro candidate
    rw [List.mem_filter, h.mem_iff, beq_iff_eq]
    constructor
    · exact fun ⟨⟨hKnown, _⟩, hDistance⟩ => ⟨hKnown, hDistance⟩
    · exact fun ⟨hKnown, hDistance⟩ => ⟨⟨hKnown, by omega⟩, hDistance⟩
  refine ⟨_, h.eq ⟨fun candidate => ?_, ?_⟩, hFar⟩
  · rw [List.mem_append, hNear.mem_iff, hFar, ← and_or_left]
    refine and_congr_right fun _ => ?_
    omega
  · refine List.pairwise_append.mpr ⟨hNear.ordered, h.ordered.filter _,
      fun first hFirst second hSecond => ?_⟩
    have hFirst := ((hNear.mem_iff first).mp hFirst).2
    have hSecond := ((hFar second).mp hSecond).2
    exact Or.inl (by omega)

/-- A farther reach is not seen among the first names if there are enough nearer ones,
or none at that distance. -/
theorem Ranking.take_eq_iff {name : String} {reach : Nat}
    {known near ranked : List String} (hNear : Ranking name reach known near)
    (h : Ranking name (reach + 1) known ranked) (count : Nat) :
    ranked.take count = near.take count ↔
      count ≤ near.length ∨ ∀ candidate ∈ known,
        distance name candidate ≠ reach + 1 := by
  obtain ⟨far, rfl, hFar⟩ := hNear.exists_eq_append h
  have hNone : far = [] ↔ ∀ candidate ∈ known, distance name candidate ≠ reach + 1 := by
    rw [List.eq_nil_iff_forall_not_mem]
    refine forall_congr' fun candidate => ?_
    rw [hFar, not_and]
  rw [List.take_append, List.append_right_eq_self, List.take_eq_nil_iff,
    Nat.sub_eq_zero_iff_le, hNone]

/-! ## Suggestions -/

/-- The suggestions for a name are the first three of the distinct known names that are
at least one edit away from it and at most as many as the length of the name allows, the
nearest first and those at the same distance by their texts; the distance is the least
number of edits of single characters. One edit is allowed for a name of up to three
bytes and two for all others. Where the length is taken in characters instead, the
ranking suggests the same unless the name has up to three characters in more than three
bytes, fewer than three names are one edit away from it, and one is two edits away. -/
theorem suggestions_ranked (name : String) (known : List String) :
    (∀ candidate, IsLeast {count | Edits count name.toList candidate.toList}
      (distance name candidate)) ∧
    ∃ ranked wanted, Ranking name (if name.utf8ByteSize ≤ 3 then 1
      else 2) known ranked ∧
      Ranking name (if name.length ≤ 3 then 1 else 2) known wanted ∧
      suggestions name known = ranked.take 3 ∧
      (suggestions name known = wanted.take 3 ↔
        name.utf8ByteSize ≤ 3 ∨ 3 < name.length ∨
        3 ≤ wanted.length ∨ ∀ candidate ∈ known, distance name candidate ≠ 2) := by
  have hLength := length_le_utf8ByteSize name
  refine ⟨isLeast_distance name, _, _, ranking_ranked name _ known,
    ranking_ranked name _ known, suggestions_eq_take name known, ?_⟩
  rw [suggestions_eq_take, suggestionReach]
  by_cases hBytes : name.utf8ByteSize ≤ 3
  · rw [if_pos hBytes, if_pos (hLength.trans hBytes)]
    exact iff_of_true rfl (Or.inl hBytes)
  · by_cases hShort : name.length ≤ 3
    · have hTake := (ranking_ranked name 1 known).take_eq_iff
        (ranking_ranked name 2 known) 3
      rw [if_neg hBytes, if_pos hShort, hTake, or_iff_right hBytes,
        or_iff_right (Nat.not_lt.mpr hShort)]
    · rw [if_neg hBytes, if_neg hShort]
      exact iff_of_true rfl (Or.inr (Or.inl (Nat.lt_of_not_le hShort)))

/-- A name of three characters is allowed two edits if one of them takes two bytes. -/
theorem suggestions_ne_of_umlaut :
    ¬ ∃ wanted, Ranking "jön" (if "jön".length ≤ 3 then 1 else 2) ["join"] wanted ∧
      suggestions "jön" ["join"] = wanted.take 3 := by
  have hSuggested : suggestions "jön" ["join"] = ["join"] := by cbv
  have hLength : "jön".length = 3 := by decide
  have hDistance : distance "jön" "join" = 2 := by decide
  rintro ⟨wanted, hWanted, hTake⟩
  rw [hSuggested] at hTake
  have hMem : "join" ∈ wanted :=
    List.mem_of_mem_take (hTake ▸ List.mem_singleton_self "join")
  have hReach := ((hWanted.mem_iff "join").mp hMem).2.2
  rw [hDistance, hLength] at hReach
  exact absurd hReach (by decide)

end TextTemplate
