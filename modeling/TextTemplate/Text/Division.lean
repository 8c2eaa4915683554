/-!
# Dividing text

A text is divided at every occurrence of a separator, found from left to right without
overlap. The pieces with the separator put back between them give the text again.
-/

namespace TextTemplate.Text

/-- The characters before the first occurrence of a separator and those behind it. The
separator is not empty. -/
def cutAt (separator : List Char) : List Char → Option (List Char × List Char)
  | [] => none
  | c :: rest =>
    if separator.isPrefixOf (c :: rest) then some ([], rest.drop (separator.length - 1))
    else (cutAt separator rest).map fun (before, after) => (c :: before, after)

theorem length_cutAt {separator cs before after : List Char}
    (h : cutAt separator cs = some (before, after)) : after.length < cs.length := by
  induction cs generalizing before after with
  | nil => simp [cutAt] at h
  | cons c rest ih =>
    simp only [cutAt] at h
    split at h
    · simp only [Option.some.injEq, Prod.mk.injEq] at h
      simp only [← h.2, List.length_drop, List.length_cons]
      omega
    · simp only [Option.map_eq_some_iff, Prod.mk.injEq, Prod.exists] at h
      obtain ⟨found, left, hFound, -, hLeft⟩ := h
      have := ih hFound
      simp only [← hLeft, List.length_cons]
      omega

/-- Whether a text that is not empty occurs in another one. -/
def occurs (part text : String) : Bool :=
  (cutAt part.toList text.toList).isSome

/-- The pieces between the occurrences of a separator. -/
def divide (separator cs : List Char) : List (List Char) :=
  match _h : cutAt separator cs with
  | none => [cs]
  | some (before, after) => before :: divide separator after
  termination_by cs.length
  decreasing_by exact length_cutAt _h

/-- The pieces of a text between the occurrences of a separator, as texts. -/
def divideText (separator text : String) : List String :=
  (divide separator.toList text.toList).map String.ofList

end TextTemplate.Text
