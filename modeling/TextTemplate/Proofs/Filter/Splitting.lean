import TextTemplate.Filter.Standard
import TextTemplate.Proofs.Text.Division

/-!
# Splitting and joining

`split` and `join` take the printed form of the same argument for their separator, so
that what one does the other undoes. Joining undoes splitting for every separator, also
the empty one, which does not divide. Splitting undoes joining if no item shares a
character with the separator; then it does not matter whether the separator overlaps
itself or stands at an end of the text, and only the empty sequence is not found again,
since it is joined to what a single empty text is.

## Main results

* `split_string`, `join_strings` — what the two filters give for a single argument.
* `splitting_joins` — each undoes the other.
-/

namespace TextTemplate.Filter

open TextTemplate.Text

theorem print_string (text : String) : (Value.string text).print = text := by
  rw [Value.print, Value.spell, if_neg Bool.false_ne_true]

theorem split_string (text : String) (separator : Value) :
    split (.string text) [separator] = .ok (.sequence
      ((if separator.print = "" then [text]
        else divideText separator.print text).map Value.string)) := by
  rw [split, separatorOf]
  by_cases hSeparator : separator.print = "" <;>
    simp [hSeparator, bind, Except.bind, pure, Except.pure]

theorem join_strings (texts : List String) (separator : Value) :
    join (.sequence (texts.map Value.string)) [separator] =
      .ok (.string (separator.print.intercalate texts)) := by
  have hTexts : (texts.map Value.string).map Value.print = texts := by
    rw [List.map_map]
    exact (List.map_congr_left fun text _ => print_string text).trans
      (List.map_id' texts)
  show Except.ok (Value.string
    (separator.print.intercalate ((texts.map Value.string).map Value.print))) = _
  rw [hTexts]

/-- Splitting a text and joining the pieces gives the text, for every separator; joining
texts and splitting the whole gives the texts, if there is one at all and the separator
is not empty and shares no character with any of them. -/
theorem splitting_joins :
    (∀ (text : String) (separator : Value), ∃ pieces : List String,
      split (.string text) [separator] = .ok (.sequence (pieces.map Value.string)) ∧
      join (.sequence (pieces.map Value.string)) [separator] = .ok (.string text)) ∧
    (∀ (texts : List String) (separator : Value), texts ≠ [] → separator.print ≠ "" →
      (∀ text ∈ texts, ∀ c ∈ text.toList, c ∉ separator.print.toList) →
        ∃ joined : String,
        join (.sequence (texts.map Value.string)) [separator] = .ok (.string joined) ∧
        split (.string joined) [separator] =
          .ok (.sequence (texts.map Value.string))) := by
  constructor
  · intro text separator
    refine ⟨_, split_string text separator, ?_⟩
    rw [join_strings]
    split
    · rw [String.intercalate_singleton]
    · rename_i hSeparator
      rw [intercalate_divideText hSeparator]
  · intro texts separator hTexts hSeparator hApart
    refine ⟨_, join_strings texts separator, ?_⟩
    rw [split_string, if_neg hSeparator,
      divideText_intercalate hSeparator hTexts hApart]

/-- The separator overlaps itself, and stands at both ends of the text and next
to itself. -/
theorem splitting_joins_of_overlap :
    let texts := ["", "b", "", ""]
    let separator := Value.string "aa"
    (texts ≠ [] ∧ separator.print ≠ "" ∧ ∀ text ∈ texts, ∀ c ∈ text.toList,
      c ∉ separator.print.toList) ∧
      ∃ joined : String, join (.sequence (texts.map Value.string)) [separator] =
        .ok (.string joined) ∧
        split (.string joined) [separator] =
          .ok (.sequence (texts.map Value.string)) := by
  intro texts separator
  have hTexts : texts ≠ [] := List.cons_ne_nil _ _
  have hSeparator : separator.print ≠ "" := by
    rw [print_string]
    decide
  have hApart : ∀ text ∈ texts, ∀ c ∈ text.toList, c ∉ separator.print.toList := by
    rw [print_string]
    simp [texts]
  exact ⟨⟨hTexts, hSeparator, hApart⟩,
    splitting_joins.2 texts separator hTexts hSeparator hApart⟩

end TextTemplate.Filter
