import TextTemplate.Proofs.Diagnostic.Label
import TextTemplate.Proofs.Text.Blank

/-!
# Where a name is found behind a mark

The search for a name goes from one mark to the next, each one the first in what stands
behind the one before, so marks do not overlap. A name that does not begin with a blank
follows a mark, with blanks in between or none, exactly if what is left without the
blanks begins with it; so the first mark that a name follows is the one where the search
ends, and there is none where it finds nothing. A mark that cannot overlap itself has no
other occurrences.

The offset is the size of the source less the size of its end, from the name on. That is
the size of what stands in front of the name, whatever the characters there are, so both
ends of the span lie between characters.

## Main results

* `beginsBehindBlanks_iff` — when a name follows a mark.
* `counted_iff` — which occurrences a mark has that cannot overlap itself.
* `SourceSpan.Cuts.covers` — the text at a span.
* `locateAfter_follows` — which span is found, and when there is none.
-/

namespace TextTemplate

open TextTemplate.Text

/-! ## Occurrences of a mark -/

/-- The first occurrence of a mark has the fewest characters in front of it. -/
structure FirstOccurrence (mark cs before after : List Char) : Prop where
  whole : cs = before ++ (mark ++ after)
  first : ∀ left right, cs = left ++ (mark ++ right) → before.length ≤ left.length

/-- The occurrences of a mark, counted from the left without overlap: the first one, and
those that are counted in what stands behind the first one. An occurrence is given by
what stands in front of it and behind it. -/
inductive Counted (mark : List Char) : List Char → List Char → List Char → Prop where
  | first {cs before after : List Char} (h : FirstOccurrence mark cs before after) :
      Counted mark cs before after
  | later {cs before rest front after : List Char}
      (h : FirstOccurrence mark cs before rest)
      (hLater : Counted mark rest front after) :
        Counted mark cs (before ++ (mark ++ front)) after

/-- Behind blanks, if any, a text begins with a name. -/
def BeginsBehindBlanks (name after : List Char) : Prop :=
  ∃ blanks behind, after = blanks ++ (name ++ behind) ∧ ∀ c ∈ blanks, isBlank c = true

section Beginnings

variable {name : List Char} (hName : name ≠ [])
  (hStart : ∀ c, name.head? = some c → isBlank c = false)

include hName hStart

/-- The blanks in front of a name are taken off, and nothing of the name. -/
theorem trimStart_append_name {blanks : List Char}
    (hBlanks : ∀ c ∈ blanks, isBlank c = true) (behind : List Char) :
    trimStart (blanks ++ (name ++ behind)) = name ++ behind := by
  apply trimStart_blanks hBlanks
  rw [List.head?_append_of_ne_nil _ hName]
  exact hStart

theorem beginsBehindBlanks_iff (after : List Char) :
    BeginsBehindBlanks name after ↔ name.isPrefixOf (trimStart after) = true := by
  rw [List.isPrefixOf_iff_prefix]
  constructor
  · rintro ⟨blanks, behind, rfl, hBlanks⟩
    rw [trimStart_append_name hName hStart hBlanks]
    exact List.prefix_append name behind
  · rintro ⟨behind, hBehind⟩
    obtain ⟨blanks, hAfter, hBlanks⟩ := trimStart_append after
    exact ⟨blanks, behind, hBehind ▸ hAfter, hBlanks⟩

end Beginnings

section Marks

variable {mark cs before after : List Char} (hMark : mark ≠ [])

include hMark

theorem firstOccurrence_iff :
    FirstOccurrence mark cs before after ↔ cutAt mark cs = some (before, after) := by
  rw [cutAt_eq_some_iff hMark]
  exact ⟨fun h => ⟨h.whole, h.first⟩, fun h => ⟨h.1, h.2⟩⟩

/-- Where nothing is cut, no occurrence is counted. -/
private theorem not_counted_of_cutAt_eq_none (h : cutAt mark cs = none) :
    ¬ Counted mark cs before after := by
  rintro (hFirst | ⟨hFirst, -⟩)
  · exact Option.some_ne_none _ (((firstOccurrence_iff hMark).mp hFirst).symm.trans h)
  · exact Option.some_ne_none _ (((firstOccurrence_iff hMark).mp hFirst).symm.trans h)

/-- The occurrences that are counted are where a cut is made and those behind it. -/
private theorem counted_iff_of_cutAt {front rest : List Char}
    (h : cutAt mark cs = some (front, rest)) :
    Counted mark cs before after ↔
      before = front ∧ after = rest ∨ ∃ later, before = front ++ (mark ++ later) ∧
        Counted mark rest later after := by
  have hFirst := (firstOccurrence_iff hMark).mpr h
  constructor
  · rintro (hOther | ⟨hOther, hLater⟩)
    · have hSame := ((firstOccurrence_iff hMark).mp hOther).symm.trans h
      cases hSame
      exact .inl ⟨rfl, rfl⟩
    · have hSame := ((firstOccurrence_iff hMark).mp hOther).symm.trans h
      cases hSame
      exact .inr ⟨_, rfl, hLater⟩
  · rintro (⟨rfl, rfl⟩ | ⟨later, rfl, hLater⟩)
    · exact .first hFirst
    · exact .later hFirst hLater

end Marks

theorem Counted.whole {mark cs before after : List Char}
    (h : Counted mark cs before after) :
    cs = before ++ (mark ++ after) := by
  induction h with
  | first h => exact h.whole
  | later h _ ih => rw [h.whole, ih, List.append_assoc, List.append_assoc]

/-- Nothing but the mark itself is both at its beginning and at its end, so that it
cannot overlap itself. -/
def Unbordered (mark : List Char) : Prop :=
  ∀ border, border ≠ [] → border <+: mark → border <:+ mark → border = mark

/-- Of two occurrences of a mark that cannot overlap itself, one stands behind
the other. -/
theorem Unbordered.apart {mark gap rest after : List Char} (hMark : Unbordered mark)
    (hGap : gap ≠ []) (h : mark ++ rest = gap ++ (mark ++ after)) :
    ∃ later, gap = mark ++ later ∧ rest = later ++ (mark ++ after) := by
  rcases List.append_eq_append_iff.mp h with ⟨later, hLater, hRest⟩ | ⟨border,
    hBorder, hAfter⟩
  · exact ⟨later, hLater, hRest⟩
  · by_cases hEmpty : border = []
    · rw [hEmpty, List.append_nil] at hBorder
      rw [hEmpty, List.nil_append] at hAfter
      exact ⟨[], by rw [hBorder, List.append_nil], hAfter.symm⟩
    · have hPrefix : border <+: mark :=
        List.prefix_of_prefix_length_le ⟨rest,
          hAfter.symm⟩ (List.prefix_append mark after) (by simp [hBorder])
      have hSame := hMark border hEmpty hPrefix ⟨gap, hBorder.symm⟩
      rw [hSame] at hBorder
      exact absurd (List.self_eq_append_left.mp hBorder) hGap

/-- A mark that cannot overlap itself has no occurrences but those that are counted. -/
theorem counted_iff {mark cs : List Char} (hMark : mark ≠ [])
    (hUnbordered : Unbordered mark) (before after : List Char) :
    Counted mark cs before after ↔ cs = before ++ (mark ++ after) := by
  refine ⟨Counted.whole, fun h => ?_⟩
  induction hLength : cs.length using Nat.strongRecOn generalizing cs before with
  | ind length ih =>
      cases hCut : cutAt mark cs with
      | none => exact absurd h (ne_append_of_cutAt_eq_none hCut hMark before after)
      | some pair =>
          obtain ⟨front, rest⟩ := pair
          have hFirst := (firstOccurrence_iff hMark).mpr hCut
          have hPrefix : front <+: before :=
            List.prefix_of_prefix_length_le ⟨_, hFirst.whole.symm⟩ ⟨_,
              h.symm⟩ (hFirst.first before after h)
          obtain ⟨gap, rfl⟩ := hPrefix
          have hBoth : mark ++ rest = gap ++ (mark ++ after) := by
            rw [hFirst.whole, List.append_assoc] at h
            exact List.append_cancel_left h
          by_cases hGap : gap = []
          · rw [hGap, List.nil_append] at hBoth
            rw [hGap, List.append_nil, ← List.append_cancel_left hBoth]
            exact .first hFirst
          · obtain ⟨later, rfl, hRest⟩ := hUnbordered.apart hGap hBoth
            exact .later hFirst (ih rest.length (hLength ▸ length_cutAt hCut)
              later hRest rfl)

/-! ## Spans -/

/-- A span lies in a source between characters, and the source has a text there. -/
structure SourceSpan.Covers (span : SourceSpan) (source text : String) : Prop where
  inside : span.offset + span.length ≤ source.utf8ByteSize
  start : String.Pos.Raw.IsValid source ⟨span.offset⟩
  finish : String.Pos.Raw.IsValid source ⟨span.offset + span.length⟩
  extract : String.Pos.Raw.extract source ⟨span.offset⟩
    ⟨span.offset + span.length⟩ = text

private theorem isValid_byteLength {source : String} {front behind : List Char}
    (h : source.toList = front ++ behind) :
    String.Pos.Raw.IsValid source ⟨byteLength front⟩ := by
  refine String.Pos.Raw.isValid_iff_exists_append.mpr ⟨String.ofList front,
    String.ofList behind, ?_, ?_⟩
  · rw [← String.ofList_append, ← h, String.ofList_toList]
  · rw [String.rawEndPos, utf8ByteSize_eq, String.toList_ofList]

private theorem byteLength_eq_utf8Len (cs : List Char) :
    byteLength cs = String.utf8Len cs := by
  rw [← String.utf8ByteSize_ofList, utf8ByteSize_eq, String.toList_ofList]

theorem SourceSpan.Cuts.covers {span : SourceSpan} {source text : String}
    {front behind : List Char} (h : span.Cuts source front text.toList behind) :
    span.Covers source text := by
  have hFinish : span.offset + span.length = byteLength (front ++ text.toList) := by
    rw [h.offset, h.length, byteLength_append]
  have hWhole : source.toList = (front ++ text.toList) ++ behind := by
    rw [h.whole, List.append_assoc]
  refine ⟨?_, h.offset ▸ isValid_byteLength h.whole,
    hFinish ▸ isValid_byteLength hWhole, ?_⟩
  · rw [hFinish, utf8ByteSize_eq, hWhole, byteLength_append (front ++ text.toList)]
    exact Nat.le_add_right _ _
  · have hSource := congrArg String.ofList hWhole
    rw [String.ofList_toList] at hSource
    rw [h.offset, h.length, byteLength_eq_utf8Len, byteLength_eq_utf8Len, hSource,
      String.extract_of_valid, String.ofList_toList]

/-! ## The search -/

/-- The first mark that a name follows. -/
structure FirstFollowed (mark name cs before after : List Char) : Prop where
  counted : Counted mark cs before after
  follows : BeginsBehindBlanks name after
  first : ∀ earlier rest, Counted mark cs earlier rest →
    earlier.length < before.length → ¬ BeginsBehindBlanks name rest

/-- What is found among characters at the end of a source: where the name is that
follows the first mark that it follows, or nothing if there is no such mark. -/
def Locates (total : Nat) (mark name cs : List Char) : Option SourceSpan → Prop
  | some span => ∃ before after, FirstFollowed mark name cs before after ∧
      span = ⟨total - byteLength (trimStart after), byteLength name⟩
  | none =>
    ∀ before after, Counted mark cs before after → ¬ BeginsBehindBlanks name after

section Search

variable {total : Nat} {mark name cs front rest : List Char} (hMark : mark ≠ [])
  (hCut : cutAt mark cs = some (front, rest))

include hMark hCut

private theorem locates_first (hBegins : BeginsBehindBlanks name rest) :
    Locates total mark name cs
      (some ⟨total - byteLength (trimStart rest), byteLength name⟩) := by
  have hFirst := (firstOccurrence_iff hMark).mpr hCut
  refine ⟨front, rest, ⟨.first hFirst, hBegins,
    fun earlier other hCounted hEarlier => ?_⟩, rfl⟩
  exact absurd hEarlier (Nat.not_lt.mpr (hFirst.first earlier other hCounted.whole))

/-- The search goes on behind a mark that the name does not follow. -/
theorem Locates.later (hNot : ¬ BeginsBehindBlanks name rest)
    {found : Option SourceSpan} (h : Locates total mark name rest found) :
    Locates total mark name cs found := by
  cases found with
  | some span =>
      obtain ⟨before, after, hFollowed, hSpan⟩ := h
      have hLater := Counted.later ((firstOccurrence_iff hMark).mpr hCut)
        hFollowed.counted
      refine ⟨_, after, ⟨hLater, hFollowed.follows,
        fun earlier other hCounted hEarlier => ?_⟩, hSpan⟩
      rcases (counted_iff_of_cutAt hMark hCut).mp hCounted with ⟨-, rfl⟩ | ⟨later,
        rfl, hOther⟩
      · exact hNot
      · refine hFollowed.first later other hOther ?_
        simpa using hEarlier
  | none =>
      intro before after hCounted
      rcases (counted_iff_of_cutAt hMark hCut).mp hCounted with ⟨-, rfl⟩ |
        ⟨later, -, hLater⟩
      · exact hNot
      · exact h later after hLater

end Search

private theorem locates_locateWithin (total : Nat) {mark name : List Char}
    (hMark : mark ≠ []) (hName : name ≠ [])
    (hStart : ∀ c, name.head? = some c → isBlank c = false) (cs : List Char) :
    Locates total mark name cs (locateWithin total mark name cs) := by
  fun_induction locateWithin total mark name cs with
  | case1 cs hNone =>
      exact fun before after hCounted => absurd hCounted
        (not_counted_of_cutAt_eq_none hMark hNone)
  | case2 cs before after hCut candidate hFound =>
      exact locates_first hMark hCut
        ((beginsBehindBlanks_iff hName hStart after).mpr hFound)
  | case3 cs before after hCut candidate hMissed ih =>
      exact ih.later hMark hCut
        fun hBegins => hMissed ((beginsBehindBlanks_iff hName hStart after).mp hBegins)

/-- What is left of a source from a name on tells where the name begins. -/
private theorem cuts_of_beginsBehindBlanks {source : String}
    {mark name before blanks behind : List Char} (hName : name ≠ [])
    (hStart : ∀ c, name.head? = some c → isBlank c = false)
    (hBlanks : ∀ c ∈ blanks, isBlank c = true)
    (hSource : source.toList = before ++ (mark ++ (blanks ++ (name ++ behind)))) :
    SourceSpan.Cuts
      ⟨source.utf8ByteSize - byteLength (trimStart (blanks ++ (name ++ behind))),
        byteLength name⟩
      source (before ++ (mark ++ blanks)) name behind := by
  have hWhole : source.toList = (before ++ (mark ++ blanks)) ++ (name ++ behind) := by
    rw [hSource, List.append_assoc, List.append_assoc]
  refine ⟨hWhole, ?_, rfl⟩
  show source.utf8ByteSize - _ = _
  rw [trimStart_append_name hName hStart hBlanks, utf8ByteSize_eq, hWhole,
    byteLength_append _ (name ++ behind), Nat.add_sub_cancel]

/-- A name that is not empty and does not begin with a blank is found behind the first
occurrence of a mark that it follows, counted from the left without overlap, and its
span covers it; nothing is found exactly if it follows no occurrence. All occurrences of
a mark are counted if it cannot overlap itself. -/
theorem locateAfter_follows {mark name : String} (hMark : mark ≠ "") (hName : name ≠ "")
    (hStart : ∀ c, name.toList.head? = some c → isBlank c = false) (source : String) :
    (∀ span, locateAfter source mark name = some span → span.Covers source name ∧
      ∃ before blanks behind,
        FirstFollowed mark.toList name.toList source.toList before
          (blanks ++ (name.toList ++ behind)) ∧
        (∀ c ∈ blanks, isBlank c = true) ∧
        span.Cuts source (before ++ (mark.toList ++ blanks)) name.toList behind) ∧
    (locateAfter source mark name = none ↔
      ∀ before after, Counted mark.toList source.toList before after →
        ¬ BeginsBehindBlanks name.toList after) ∧
    (Unbordered mark.toList → ∀ before after,
      Counted mark.toList source.toList before after ↔
        source.toList = before ++ (mark.toList ++ after)) := by
  have hMarkChars : mark.toList ≠ [] :=
    fun hNil => hMark (String.toList_eq_nil_iff.mp hNil)
  have hNameChars : name.toList ≠ [] :=
    fun hNil => hName (String.toList_eq_nil_iff.mp hNil)
  have hLocates : Locates source.utf8ByteSize mark.toList name.toList source.toList
      (locateAfter source mark name) :=
    locates_locateWithin _ hMarkChars hNameChars hStart _
  refine ⟨fun span hSpan => ?_, ?_, counted_iff hMarkChars⟩
  · rw [hSpan] at hLocates
    obtain ⟨before, after, hFollowed, rfl⟩ := hLocates
    obtain ⟨blanks, behind, rfl, hBlanks⟩ := hFollowed.follows
    have hCuts := cuts_of_beginsBehindBlanks hNameChars hStart hBlanks
      hFollowed.counted.whole
    exact ⟨hCuts.covers, before, blanks, behind, hFollowed, hBlanks, hCuts⟩
  · cases hFound : locateAfter source mark name with
    | some span =>
        rw [hFound] at hLocates
        obtain ⟨before, after, hFollowed, -⟩ := hLocates
        exact iff_of_false (Option.some_ne_none span) fun hNone =>
          hNone before after hFollowed.counted hFollowed.follows
    | none =>
        rw [hFound] at hLocates
        exact iff_of_true rfl hLocates

/-- Behind the first mark stands only the beginning of the name, and behind the second
one a blank of two bytes. -/
theorem locateAfter_follows_wide_blank :
    let source := "ä|upp|\u00a0 upper|upper"
    ("|" ≠ "" ∧ "upper" ≠ "" ∧
      (∀ c, "upper".toList.head? = some c → isBlank c = false) ∧
        locateAfter source "|" "upper" = some ⟨10, 5⟩ ∧ Unbordered "|".toList) ∧
      SourceSpan.Covers ⟨10, 5⟩ source "upper" ∧
      ∀ before after, Counted "|".toList source.toList before after ↔
        source.toList = before ++ ("|".toList ++ after) := by
  intro source
  have hMark : "|" ≠ "" := by decide
  have hName : "upper" ≠ "" := by decide
  have hStart : ∀ c, "upper".toList.head? = some c → isBlank c = false := by
    intro c hHead
    cases hHead
    decide
  have hFound : locateAfter source "|" "upper" = some ⟨10, 5⟩ := by cbv
  have hUnbordered : Unbordered "|".toList := fun border hSome hPrefix _ =>
    hPrefix.eq_of_length_le (List.length_pos_iff.mpr hSome)
  obtain ⟨hSpan, -, hCounted⟩ := locateAfter_follows hMark hName hStart source
  exact ⟨⟨hMark, hName, hStart, hFound, hUnbordered⟩, (hSpan _ hFound).1,
    hCounted hUnbordered⟩

end TextTemplate
