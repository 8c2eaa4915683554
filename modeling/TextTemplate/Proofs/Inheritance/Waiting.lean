import TextTemplate.Proofs.Inheritance.Filling
import TextTemplate.Proofs.Mapping
import TextTemplate.Render.Context
import TextTemplate.Tag.Inheritance

/-!
# Which blocks wait

A derived template lists its blocks by name, a later one in place of an earlier one, and
merging leaves alone what waits already. So down a chain of templates the block of the
most derived template with one waits for each name, and of that template the last one.
This module proves it of the mappings that rendering keeps.

## Main results

* `get?_blocks` — a template offers the last block of each name.
* `Overrides.get?_merge` — what waits already stays.
-/

namespace TextTemplate

/-- A template offers its last block of each name. -/
theorem get?_blocks (nodes : List Node) (name : String) :
    (Entries.ofList (nodes.filterMap Tag.namedBlock?)).get? name =
      lastBlock? nodes name := by
  rw [Entries.get?_ofList, ← List.filterMap_reverse, lastBlock?]
  induction nodes.reverse with
  | nil => rfl
  | cons node rest ih =>
      cases node with
      | block block =>
          have hNamed : Tag.namedBlock? (.block block) = some (block.name, block) := rfl
          rw [List.filterMap_cons_some hNamed, List.findSome?_cons,
            List.findSome?_cons, ih]
          rfl
      | _ => exact ih

/-- Blocks that wait already stay, and the others of a template wait besides. -/
theorem Overrides.get?_merge (overrides : Overrides)
    (blocks : List (String × Block Node)) (name : String) :
    (overrides.merge blocks).get? name =
      (overrides.get? name).or (Entries.get? blocks name) := by
  unfold Overrides.merge
  induction blocks generalizing overrides with
  | nil => rw [List.foldl_nil, Entries.get?_nil, Option.or_none]
  | cons entry rest ih =>
      obtain ⟨key, block⟩ := entry
      rw [List.foldl_cons, ih, Entries.get?_cons]
      by_cases hKey : key = name
      · subst hKey
        rw [if_pos rfl]
        cases hFound : overrides.get? key with
        | none => simp [Mapping.contains, hFound]
        | some waiting => simp [Mapping.contains, hFound]
      · rw [if_neg hKey]
        split
        · rfl
        · rw [Mapping.get?_insert, if_neg hKey]

/-- A block that waits after a merge waited before, or is new. -/
theorem Overrides.get?_of_merge {overrides : Overrides}
    {blocks : List (String × Block Node)} {name : String} {block : Block Node}
    (h : (overrides.merge blocks).get? name = some block) :
    overrides.get? name = some block ∨ Entries.get? blocks name = some block := by
  rw [get?_merge, Option.or_eq_some_iff] at h
  exact h.imp_right And.right

end TextTemplate
