import Mathlib
import TextTemplate.Diagnostic
import TextTemplate.Parser
import TextTemplate.Proofs.List
import TextTemplate.Proofs.Text.Division

/-!
# Which name a label covers

The name of an unknown tag or filter is looked for in the text of the source, as the
beginning of what stands behind a mark, and not among the names that the parser read. So
the label covers a whole name only if the first word behind a mark that begins with the
name is the name itself. Otherwise it covers the beginning of a longer name, even where
the name that is meant follows later.

What counts as a letter of a name does not matter for this, as long as the name that is
looked for consists of such letters: the statements are about any class of characters.

## Main results

* `locateAfter_eq_find?` — the search is one through what stands behind the marks.
* `cuts_of_locateAfter` — a span is where the candidate that was found begins.
* `labels_locateAfter` — when a label covers a whole name, and when there is none.
* `locate_covers` — the same for the two kinds of names that labels are put on.
-/

namespace TextTemplate

open TextTemplate.Text

/-! ## Bytes -/

theorem byteLength_append (front behind : List Char) :
    byteLength (front ++ behind) = byteLength front + byteLength behind := by
  induction front with
  | nil => rw [List.nil_append, byteLength, Nat.zero_add]
  | cons c front ih => rw [List.cons_append, byteLength, byteLength, ih, Nat.add_assoc]

theorem utf8ByteSize_eq (text : String) :
    text.utf8ByteSize = byteLength text.toList := by
  rw [← String.ofList_toList (s := text), String.utf8ByteSize_ofList,
    String.toList_ofList]
  induction text.toList with
  | nil => rfl
  | cons c cs ih => rw [String.utf8Len_cons, byteLength, ih, Nat.add_comm]

/-- A span cuts a source into what stands in front of it, its own text and what
follows. -/
structure SourceSpan.Cuts (span : SourceSpan) (source : String)
    (front text behind : List Char) : Prop where
  whole : source.toList = front ++ (text ++ behind)
  offset : span.offset = byteLength front
  length : span.length = byteLength text

/-! ## Candidates -/

/-- What stands behind the occurrences of a mark, counted from the left without overlap,
and behind the blanks that follow it. -/
def candidates (mark cs : List Char) : List (List Char) :=
  match _h : cutAt mark cs with
  | none => []
  | some (_, after) => trimStart after :: candidates mark after
  termination_by cs.length
  decreasing_by exact length_cutAt _h

/-- The words behind the marks of a source, where a word goes on as long as there are
characters of names. -/
def markedWords (inName : Char → Bool) (mark source : String) : List (List Char) :=
  (candidates mark.toList source.toList).map fun candidate => candidate.takeWhile inName

private theorem candidates_of_cutAt_eq_none {mark cs : List Char}
    (h : cutAt mark cs = none) :
    candidates mark cs = [] := by
  rw [candidates]
  split
  · rfl
  · simp_all

private theorem candidates_of_cutAt_eq_some {mark cs before after : List Char}
    (h : cutAt mark cs = some (before, after)) :
    candidates mark cs = trimStart after :: candidates mark after := by
  rw [candidates]
  split
  · simp_all
  · rename_i hSome
    cases h.symm.trans hSome
    rfl

private theorem locateWithin_eq_find? (total : Nat) (mark name cs : List Char) :
    locateWithin total mark name cs = ((candidates mark cs).find? name.isPrefixOf).map
      fun candidate => ⟨total - byteLength candidate, byteLength name⟩ := by
  fun_induction locateWithin total mark name cs with
  | case1 cs hNone =>
      rw [candidates_of_cutAt_eq_none hNone]
      rfl
  | case2 cs before after hCut candidate hFound =>
      have hTrimmed : name.isPrefixOf (trimStart after) = true := hFound
      rw [candidates_of_cutAt_eq_some hCut, List.find?_cons_of_pos hTrimmed]
      rfl
  | case3 cs before after hCut candidate hMissed ih =>
      have hTrimmed : ¬ name.isPrefixOf (trimStart after) = true := hMissed
      rw [candidates_of_cutAt_eq_some hCut, List.find?_cons_of_neg hTrimmed, ih]

/-- A name is looked for among the candidates. -/
theorem locateAfter_eq_find? (source mark name : String) :
    locateAfter source mark name =
      ((candidates mark.toList source.toList).find? name.toList.isPrefixOf).map
        fun candidate => ⟨source.utf8ByteSize - byteLength candidate,
          byteLength name.toList⟩ :=
  locateWithin_eq_find? _ _ _ _

/-- A candidate is an end of the source. -/
private theorem isSuffix_of_mem_candidates {mark cs candidate : List Char}
    (hMark : mark ≠ []) (h : candidate ∈ candidates mark cs) : candidate <:+ cs := by
  fun_induction candidates mark cs with
  | case1 cs hNone => cases h
  | case2 cs before after hCut ih =>
      have hAfter : after <:+ cs := by
        rw [cutAt_eq_some hCut hMark, ← List.append_assoc]
        exact List.suffix_append _ _
      rcases List.mem_cons.mp h with rfl | hRest
      · exact (List.dropWhile_suffix _).trans hAfter
      · exact (ih hRest).trans hAfter

/-- The span of a name is where the first candidate that begins with it begins. -/
theorem cuts_of_locateAfter {source mark name : String} {span : SourceSpan}
    (hMark : mark ≠ "") (h : locateAfter source mark name = some span) :
    ∃ front behind, span.Cuts source front name.toList behind ∧
      (candidates mark.toList source.toList).find? name.toList.isPrefixOf =
        some (name.toList ++ behind) := by
  rw [locateAfter_eq_find?, Option.map_eq_some_iff] at h
  obtain ⟨candidate, hFind, rfl⟩ := h
  have hChars : mark.toList ≠ [] := fun hNil => hMark (String.toList_eq_nil_iff.mp hNil)
  obtain ⟨front, hSource⟩ :=
    isSuffix_of_mem_candidates hChars (List.mem_of_find?_eq_some hFind)
  obtain ⟨behind, rfl⟩ := List.isPrefixOf_iff_prefix.mp (List.find?_some hFind)
  refine ⟨front, behind, ⟨hSource.symm, ?_, rfl⟩, hFind⟩
  show source.utf8ByteSize - _ = _
  rw [utf8ByteSize_eq, ← hSource, byteLength_append, Nat.add_sub_cancel]

/-! ## Words -/

private theorem find?_markedWords {inName : Char → Bool} {name : List Char}
    (hName : ∀ c ∈ name, inName c = true) (mark source : String) :
    (markedWords inName mark source).find? name.isPrefixOf =
      ((candidates mark.toList source.toList).find? name.isPrefixOf).map
        fun candidate => candidate.takeWhile inName := by
  rw [markedWords, List.find?_map]
  congr 2
  exact funext fun candidate => isPrefixOf_takeWhile hName candidate

/-! ## Labels -/

/-- What the label of a name behind a mark is like. It covers the beginning of the first
word that begins with the name, so that no character of names follows it exactly if that
word is the name itself; and there is none if no word begins with the name. -/
def Labels (inName : Char → Bool) (mark source name : String) : Option SourceSpan → Prop
  | some span => ∃ front behind, span.Cuts source front name.toList behind ∧
      ((∀ c, behind.head? = some c → inName c = false) ↔
        (markedWords inName mark source).find? name.toList.isPrefixOf =
          some name.toList)
  | none => ∀ word ∈ markedWords inName mark source, ¬ name.toList <+: word

theorem labels_locateAfter {inName : Char → Bool} {mark name : String}
    (hMark : mark ≠ "") (hName : ∀ c ∈ name.toList, inName c = true) (source : String) :
    Labels inName mark source name (locateAfter source mark name) := by
  have hWords := find?_markedWords hName mark source
  cases hLocated : locateAfter source mark name with
  | some span =>
      obtain ⟨front, behind, hCuts, hFind⟩ := cuts_of_locateAfter hMark hLocated
      refine ⟨front, behind, hCuts, ?_⟩
      rw [hWords, hFind, Option.map_some, Option.some_inj,
        takeWhile_append_eq_self_iff hName]
  | none =>
      intro word hWord hBegins
      rw [locateAfter_eq_find?, Option.map_eq_none_iff] at hLocated
      rw [hLocated, Option.map_none, List.find?_eq_none] at hWords
      exact hWords word hWord (List.isPrefixOf_iff_prefix.mpr hBegins)

/-- For both kinds of names, a label covers a whole name exactly if the first word
behind a mark that begins with the name is the name itself. -/
theorem locate_covers (inName : Char → Bool) (source : String) {name : String}
    (hName : ∀ c ∈ name.toList, inName c = true) :
    Labels inName "|" source name (locateFilter source name) ∧
      Labels inName "\x7b%" source name (locateTag source name) :=
  ⟨labels_locateAfter (by decide) hName source,
    labels_locateAfter (by decide) hName source⟩

/-- Letters, digits, underscores and hyphens. -/
def isNameChar (c : Char) : Bool :=
  c.isAlphanum || c == '_' || c == '-'

/-- A shorter name in front does not matter. -/
theorem locate_covers_of_shorter_name :
    let source := "\x7b\x7b ä|up \x7d\x7d \x7b\x7b b|  upper \x7d\x7d"
    (∀ c ∈ "upper".toList, isNameChar c = true) ∧
      locateFilter source "upper" = some ⟨19, 5⟩ ∧
      ∃ front behind, SourceSpan.Cuts ⟨19, 5⟩ source front "upper".toList behind ∧
        ∀ c, behind.head? = some c → isNameChar c = false := by
  intro source
  have hName : ∀ c ∈ "upper".toList, isNameChar c = true :=
    List.all_eq_true.mp (by decide)
  have hLocated : locateFilter source "upper" = some ⟨19, 5⟩ := by cbv
  have hFirst : (markedWords isNameChar "|" source).find? "upper".toList.isPrefixOf =
      some "upper".toList := by cbv
  have hLabel := (locate_covers isNameChar source hName).1
  rw [hLocated] at hLabel
  obtain ⟨front, behind, hCuts, hWhole⟩ := hLabel
  exact ⟨hName, hLocated, front, behind, hCuts, hWhole.mpr hFirst⟩

/-- A longer name in front gets the label of an unknown one that begins it, for filters
and for tags. -/
theorem locate_covers_beginning :
    (∃ source front behind, Registry.parse [Extension.standard] source =
      .error (.unknownFilter "upper" []) ∧
      (∀ c ∈ "upper".toList, isNameChar c = true) ∧
        locateFilter source "upper" = some ⟨5, 5⟩ ∧
      SourceSpan.Cuts ⟨5, 5⟩ source front "upper".toList behind ∧
      ∃ c, behind.head? = some c ∧ isNameChar c = true) ∧
    ∃ source front behind, Registry.parse [Extension.standard] source =
      .error (.unknownTag "in") ∧
      (∀ c ∈ "in".toList, isNameChar c = true) ∧ locateTag source "in" = some ⟨3, 2⟩ ∧
      SourceSpan.Cuts ⟨3, 2⟩ source front "in".toList behind ∧
      ∃ c, behind.head? = some c ∧ isNameChar c = true := by
  constructor
  · refine ⟨"\x7b\x7b a|uppercase \x7d\x7d \x7b\x7b b|upper \x7d\x7d",
      "\x7b\x7b a|".toList, "case \x7d\x7d \x7b\x7b b|upper \x7d\x7d".toList, by
        cbv, List.all_eq_true.mp (by decide), by cbv,
      ⟨?_, ?_, ?_⟩, 'c', ?_, ?_⟩
    all_goals decide
  · refine ⟨"\x7b% include 'a' %\x7d\x7b% in %\x7d", "\x7b% ".toList,
      "clude 'a' %\x7d\x7b% in %\x7d".toList, by cbv,
        List.all_eq_true.mp (by decide), by cbv, ⟨?_, ?_, ?_⟩, 'c', ?_, ?_⟩
    all_goals decide

end TextTemplate
