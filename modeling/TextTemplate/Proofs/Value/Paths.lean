import TextTemplate.Proofs.Text.Division
import TextTemplate.Proofs.Token.Components
import TextTemplate.Variable

/-!
# Dotted paths

The segments of a path are looked up one inside the other, and a look-up that finds
nothing makes the whole path nil. Nil may also be found, as an entry of a mapping or an
item of a sequence, and then the next segment is looked up in it. Since nothing is found
in nil, it does not matter in which of the two ways a path comes to nil, and a path can
be cut in front of its last segment: what is found there is looked up in the value of
the rest, which is a path of its own.

That holds of texts that write paths. A text that writes a literal may have dots too, so
a path and its front may be told apart from their texts only as long as neither is one.

## Main results

* `Variable.segments_append`, `Variable.segments_intercalate` — the segments of a text.
* `Variable.descend_append` — what a path finds is looked up segment by segment.
* `Variable.resolve_dotted` — the values of paths.
-/

namespace TextTemplate

open TextTemplate.Text

/-- Nothing is found in nil. -/
private theorem Value.lookup_nil (segment : String) :
    Value.nil.lookup segment = none := by
  simp [lookup, wordLookup, recordLookup, first?, last?, count?]

namespace Variable

/-! ## Segments -/

/-- A segment behind a dot is the last one. -/
theorem segments_append (text : String) {segment : String} (h : '.' ∉ segment.toList) :
    segments (text ++ "." ++ segment) = segments text ++ [segment] := by
  have hText : (text ++ "." ++ segment).toList = text.toList ++ '.' ::
      segment.toList := by simp
  have hDot : ".".toList = ['.'] := rfl
  rw [segments, segments, divideText, divideText, hText, hDot, divide_append_piece h,
    List.map_append, List.map_singleton, String.ofList_toList]

/-- Segments with dots between them are the segments of their text. -/
theorem segments_intercalate {path : List String} (hPath : path ≠ [])
    (h : ∀ segment ∈ path, '.' ∉ segment.toList) :
    segments (".".intercalate path) = path := by
  have hDot : ".".toList = ['.'] := rfl
  refine divideText_intercalate (by decide) hPath fun segment hMem => ?_
  rw [hDot]
  exact notMem_singleton_of_notMem (h segment hMem)

/-- A text without a dot that is no literal is a path of one segment. -/
theorem ofString_name {source : String} (hLiteral : literal? source = none)
    (hDots : '.' ∉ source.toList) :
    ofString source = ⟨source, .path [source]⟩ := by
  have hDot : ".".toList = ['.'] := rfl
  rw [ofString, hLiteral, segments, divideText, hDot, divide_of_notMem hDots,
    List.map_singleton, String.ofList_toList]

/-- Every text is segments without a dot, with dots between them. -/
private theorem exists_segments (text : String) :
    ∃ first rest, text = ".".intercalate (first :: rest) ∧ ∀ segment ∈ first :: rest,
      '.' ∉ segment.toList := by
  have hWhole : ".".intercalate (segments text) = text :=
    intercalate_divideText (by decide) text
  have hPlain : ∀ segment ∈ segments text, '.' ∉ segment.toList := by
    refine List.forall_mem_map.mpr fun piece hPiece => ?_
    rw [String.toList_ofList]
    exact notMem_of_mem_divide hPiece
  cases hSegments : segments text with
  | nil =>
      have hPieces : divide ".".toList text.toList = [] :=
        List.map_eq_nil_iff.mp hSegments
      rw [divide] at hPieces
      split at hPieces <;> cases hPieces
  | cons first rest =>
      rw [hSegments] at hWhole hPlain
      exact ⟨first, rest, hWhole.symm, hPlain⟩

/-! ## Looking inside -/

/-- Behind nil there is nil. -/
theorem descend_nil (path : List String) : descend .nil path = .nil := by
  cases path with
  | nil => rfl
  | cons segment rest => rw [descend, Value.lookup_nil]

/-- The segments are looked up one after the other. -/
theorem descend_append (value : Value) (path more : List String) :
    descend value (path ++ more) = descend (descend value path) more := by
  induction path generalizing value with
  | nil => rfl
  | cons segment rest ih =>
      rw [List.cons_append, descend, descend]
      cases value.lookup segment with
      | none => rw [descend_nil]
      | some found => exact ih found

private theorem descend_singleton (value : Value) (segment : String) :
    descend value [segment] = (value.lookup segment).getD .nil := by
  rw [descend]
  cases value.lookup segment <;> rfl

/-- The whole way is the look-ups in a row. -/
private theorem descend_eq (value : Value) (path : List String) :
    descend value path = (path.foldlM Value.lookup value).getD .nil := by
  induction path generalizing value with
  | nil => rfl
  | cons segment rest ih =>
      rw [descend, List.foldlM_cons]
      cases value.lookup segment with
      | none => rfl
      | some found => exact ih found

/-- A path is its first segment among the scopes, and the rest of the way inside what is
found there. -/
private theorem resolvePath_cons (scopes : Scopes) (first : String)
    (rest : List String) :
    resolvePath scopes (first :: rest) =
      descend ((scopes.get? first).getD .nil) rest := by
  rw [resolvePath]
  cases scopes.get? first with
  | none => exact (descend_nil rest).symm
  | some value => rfl

private theorem resolvePath_append (scopes : Scopes) {path : List String}
    (hPath : path ≠ []) (more : List String) :
    resolvePath scopes (path ++ more) = descend (resolvePath scopes path) more := by
  obtain ⟨first, rest, rfl⟩ := List.exists_cons_of_ne_nil hPath
  rw [List.cons_append, resolvePath_cons, resolvePath_cons, descend_append]

/-! ## Values -/

/-- What is no literal is a path. -/
private theorem resolve_of_literal?_eq_none {text : String} (h : literal? text = none)
    (scopes : Scopes) :
    (ofString text).resolve scopes = resolvePath scopes (segments text) := by
  rw [ofString, h]
  rfl

/-- The values of paths, in any scopes. A path with a segment behind it has the value
that the segment finds in the value of the path, and nil if it finds nothing there. So
the value of a path, whatever its text is, comes from the binding of the first segment
by looking up the others one inside the other, and is nil from the first one on that
finds nothing. -/
theorem resolve_dotted (scopes : Scopes) :
    (∀ text segment : String, '.' ∉ segment.toList → literal? text = none →
      literal? (text ++ "." ++ segment) = none →
      (ofString (text ++ "." ++ segment)).resolve scopes =
        (((ofString text).resolve scopes).lookup segment).getD .nil) ∧
    (∀ text : String, ∃ first rest, text = ".".intercalate (first :: rest) ∧
      (∀ segment ∈ first :: rest, '.' ∉ segment.toList) ∧
      (literal? text = none → (ofString text).resolve scopes =
        ((scopes.get? first).bind fun value => rest.foldlM Value.lookup value).getD
          .nil)) := by
  refine ⟨fun text segment hSegment hText hWhole => ?_, fun text => ?_⟩
  · obtain ⟨first, rest, rfl, hPlain⟩ := exists_segments text
    rw [resolve_of_literal?_eq_none hWhole, resolve_of_literal?_eq_none hText,
      segments_append _ hSegment,
      resolvePath_append scopes
        (by rw [segments_intercalate (List.cons_ne_nil _ _) hPlain]; simp),
      descend_singleton]
  · obtain ⟨first, rest, hJoined, hPlain⟩ := exists_segments text
    refine ⟨first, rest, hJoined, hPlain, fun hText => ?_⟩
    rw [resolve_of_literal?_eq_none hText, hJoined,
      segments_intercalate (List.cons_ne_nil _ _) hPlain, resolvePath]
    cases scopes.get? first with
    | none => rfl
    | some value => exact descend_eq value rest

/-- An item of a sequence in a mapping is found, and nothing is found in an entry that
is nil. -/
theorem resolve_dotted_of_stored_nil :
    let user : Value :=
  .mapping [("name", .nil), ("pets", .sequence [.string "Ada", .string "Bob"])]
    let scopes : Scopes := [Mapping.singleton "user" user]
    (literal? "user.pets" = none ∧ literal? "user.pets.1" = none ∧
        (ofString "user.pets.1").resolve scopes = .string "Bob") ∧
      literal? "user.name" = none ∧ literal? "user.name.first" = none ∧
        (ofString "user.name.first").resolve scopes = .nil := by
  intro user scopes
  have hUser : (ofString "user").resolve scopes = user := by
    rw [ofString_name rfl (by decide)]
    rfl
  have hEntry : ∀ entry, '.' ∉ entry.toList → literal? ("user" ++ "." ++ entry) = none →
      (ofString ("user" ++ "." ++ entry)).resolve scopes =
        (user.lookup entry).getD .nil := by
    intro entry hPlain hPath
    rw [(resolve_dotted scopes).1 "user" entry hPlain rfl hPath, hUser]
  refine ⟨⟨rfl, rfl, ?_⟩, rfl, rfl, ?_⟩
  · refine ((resolve_dotted scopes).1 "user.pets" "1" (by decide) rfl rfl).trans ?_
    rw [show "user.pets" = "user" ++ "." ++ "pets" from rfl,
      hEntry "pets" (by decide) rfl]
    rfl
  · refine ((resolve_dotted scopes).1 "user.name" "first" (by decide) rfl rfl).trans ?_
    rw [show "user.name" = "user" ++ "." ++ "name" from rfl,
      hEntry "name" (by decide) rfl]
    rfl

end Variable

end TextTemplate
