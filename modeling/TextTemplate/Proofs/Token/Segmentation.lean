import TextTemplate.Proofs.Text.Blank
import TextTemplate.Proofs.Text.Division
import TextTemplate.Token.Segment

/-!
# There is one way to cut a source

Which segments a source has can be said without scanning it: a delimited segment ends at
the first closing delimiter behind its opening, an unclosed one has no closing delimiter
behind it, and a run of text goes on until a delimiter opens. This module states these
rules as `Fits` and proves that a scan reads exactly the segment that fits at the front
of what is left. As one always fits, every source can be cut to its end, and as no other
one does, it can be cut in one way only.

The five scans are told apart by what stands at the front: the delimited ones and the
unclosed one need an opening delimiter there and the run needs that there is none, so an
earlier scan never takes what a later one should have.

## Main results

* `Segment.scan_eq_some_iff` — a scan reads what fits, and nothing else.
* `Segment.row_scan_eq_some_iff` — the row of scans gives the cut of the source, and
  reaches its end.
* `tokenize_cuts` — the tokens of a source are those of its only cut.
-/

namespace TextTemplate

open TextTemplate.Text

/-! ## Openings -/

/-- A delimiter opens at the front of the characters. -/
def Opens (cs : List Char) : Prop :=
  ∃ delimiter : Delimiter, delimiter.opening <+: cs

namespace Delimiter

theorem behind?_eq_some_iff {delimiter : Delimiter} {cs inside : List Char} :
    delimiter.behind? cs = some inside ↔ cs = delimiter.opening ++ inside := by
  unfold behind?
  split
  · simp only [Option.ite_none_right_eq_some, Bool.and_eq_true, beq_iff_eq,
      Option.some.injEq, opening, List.cons_append, List.nil_append, List.cons.injEq]
    exact and_assoc
  · rename_i hShort
    constructor
    · intro h
      cases h
    · intro h
      exact absurd h (hShort _ _ _)

/-- Two delimiters that open at one place are the same. -/
private theorem eq_of_opening {first second : Delimiter} {inside others : List Char}
    (h : first.opening ++ inside = second.opening ++ others) :
    first = second ∧ inside = others := by
  simp only [opening, List.cons_append, List.nil_append, List.cons.injEq, true_and] at h
  obtain ⟨hMark, hInside⟩ := h
  refine ⟨?_, hInside⟩
  cases first <;> cases second <;> first | rfl | exact absurd hMark (by decide)

theorem behind?_of_ne {first second : Delimiter} (h : first ≠ second)
    (inside : List Char) :
    first.behind? (second.opening ++ inside) = none := by
  cases hBehind : first.behind? (second.opening ++ inside) with
  | none => rfl
  | some others =>
      exact absurd (eq_of_opening (behind?_eq_some_iff.mp hBehind)).1.symm h

theorem closing_ne_nil (delimiter : Delimiter) : delimiter.closing ≠ [] :=
  List.cons_ne_nil _ _

end Delimiter

theorem opening?_eq_some_iff {delimiter : Delimiter} {cs inside : List Char} :
    opening? cs = some (delimiter, inside) ↔ cs = delimiter.opening ++ inside := by
  constructor
  · intro h
    obtain ⟨other, -, hOther⟩ := List.exists_of_findSome?_eq_some h
    obtain ⟨found, hFound, hPair⟩ := Option.map_eq_some_iff.mp hOther
    cases hPair
    exact Delimiter.behind?_eq_some_iff.mp hFound
  · rintro rfl
    have hSelf : delimiter.behind? (delimiter.opening ++ inside) = some inside :=
      Delimiter.behind?_eq_some_iff.mpr rfl
    cases delimiter <;>
      simp [opening?, hSelf, Delimiter.behind?_of_ne]

theorem isSome_opening?_iff {cs : List Char} :
    (opening? cs).isSome = true ↔ Opens cs := by
  rw [Option.isSome_iff_exists]
  constructor
  · rintro ⟨⟨delimiter, inside⟩, h⟩
    exact ⟨delimiter, inside, (opening?_eq_some_iff.mp h).symm⟩
  · rintro ⟨delimiter, inside, rfl⟩
    exact ⟨(delimiter, inside), opening?_eq_some_iff.mpr rfl⟩

private theorem opening?_eq_none_iff {cs : List Char} :
    opening? cs = none ↔ ¬ Opens cs := by
  rw [← isSome_opening?_iff, Option.not_isSome_iff_eq_none]

private theorem not_opens_nil : ¬ Opens [] := by
  rintro ⟨delimiter, inside, h⟩
  cases h

/-- The run up to the next opening is what comes before the first place where a
delimiter opens. -/
theorem untilOpening_eq_iff {cs run after : List Char} :
    untilOpening cs = (run, after) ↔
      cs = run ++ after ∧ (after = [] ∨ Opens after) ∧
        ∀ left right, cs = left ++ right → Opens right → run.length ≤ left.length := by
  constructor
  · intro h
    fun_induction untilOpening cs generalizing run after with
    | case1 =>
        cases h
        exact ⟨rfl, Or.inl rfl, fun _ _ _ _ => Nat.zero_le _⟩
    | case2 c rest hOpens =>
        cases h
        exact ⟨rfl, Or.inr (isSome_opening?_iff.mp hOpens),
          fun _ _ _ _ => Nat.zero_le _⟩
    | case3 c rest hNot more last hRest ih =>
        cases h
        obtain ⟨hWhole, hEnd, hFirst⟩ := ih hRest
        refine ⟨by rw [hWhole, List.cons_append], hEnd, fun left right hCs hOpens => ?_⟩
        cases left with
        | nil =>
            rw [List.nil_append] at hCs
            rw [← hCs] at hOpens
            exact absurd (isSome_opening?_iff.mpr hOpens) hNot
        | cons d left =>
            have := hFirst left right (List.cons.inj hCs).2 hOpens
            simp only [List.length_cons]
            omega
  · rintro ⟨rfl, hEnd, hFirst⟩
    induction run with
    | nil =>
        rcases hEnd with rfl | hOpens
        · rfl
        · cases after with
          | nil => exact absurd hOpens not_opens_nil
          | cons c rest =>
              rw [List.nil_append, untilOpening,
                if_pos (isSome_opening?_iff.mpr hOpens)]
    | cons c run ih =>
        have hNot : ¬ (opening? (c :: (run ++ after))).isSome = true := by
          rw [isSome_opening?_iff]
          intro hOpens
          simpa using hFirst [] (c :: (run ++ after)) rfl hOpens
        have hRest : untilOpening (run ++ after) = (run, after) := by
          refine ih fun left right hCs hOpens => ?_
          have := hFirst (c :: left) right
            (by rw [List.cons_append, hCs, List.cons_append]) hOpens
          simpa using this
        rw [List.cons_append, untilOpening, if_neg hNot, hRest]

namespace Segment

/-! ## Segments that fit -/

/-- A segment fits before what is left of a source: the closing delimiter of a delimited
segment is the first one behind its opening; an unclosed segment has none and nothing
follows it; a run of text is not empty, goes on until a delimiter opens or the source
ends, and no delimiter opens inside it. -/
inductive Fits : Segment → List Char → Prop where
  | delimited {delimiter : Delimiter} {contents rest : List Char}
      (hFirst : ∀ left right, contents ++ (delimiter.closing ++ rest) =
        left ++ (delimiter.closing ++ right) → contents.length ≤ left.length) :
      Fits (.delimited delimiter contents) rest
  | unclosed {delimiter : Delimiter} {contents : List Char}
      (hNone : ∀ left right, contents ≠ left ++ (delimiter.closing ++ right)) :
      Fits (.unclosed delimiter contents) []
  | run {contents rest : List Char} (hContents : contents ≠ [])
      (hInside : ∀ left right, contents ++ rest = left ++ right → Opens right →
        contents.length ≤ left.length)
      (hEnd : rest = [] ∨ Opens rest) :
      Fits (.run contents) rest

/-- Segments that fit are not empty. -/
theorem Fits.source_ne_nil {segment : Segment} {rest : List Char}
    (h : segment.Fits rest) :
    segment.source ≠ [] := by
  cases h with
  | delimited => simp [source, Delimiter.opening]
  | unclosed => simp [source, Delimiter.opening]
  | run hContents => exact hContents

/-! ## What each scan reads -/

private theorem scanDelimited_opening (delimiter : Delimiter) (inside : List Char) :
    scanDelimited delimiter (delimiter.opening ++ inside) =
      (cutAt delimiter.closing inside).map fun (contents, rest) =>
        (.delimited delimiter contents, rest) := by
  unfold scanDelimited
  rw [Delimiter.behind?_eq_some_iff.mpr rfl]

private theorem scanDelimited_of_ne {first second : Delimiter} (h : first ≠ second)
    (inside : List Char) :
    scanDelimited first (second.opening ++ inside) = none := by
  unfold scanDelimited
  rw [Delimiter.behind?_of_ne h]

private theorem scanDelimited_of_not_opens {cs : List Char} (h : ¬ Opens cs)
    (delimiter : Delimiter) :
    scanDelimited delimiter cs = none := by
  unfold scanDelimited
  cases hBehind : delimiter.behind? cs with
  | none => rfl
  | some inside =>
      exact absurd ⟨delimiter, inside,
        (Delimiter.behind?_eq_some_iff.mp hBehind).symm⟩ h

/-- Where a delimiter opens, its own scan is tried and, if that declines, all the rest
is taken. -/
private theorem scan_opening (delimiter : Delimiter) (inside : List Char) :
    scan (delimiter.opening ++ inside) =
      match cutAt delimiter.closing inside with
      | some (contents, rest) => some (.delimited delimiter contents, rest)
      | none => some (.unclosed delimiter inside, []) := by
  have hUnclosed : scanUnclosed (delimiter.opening ++ inside) =
      some (.unclosed delimiter inside, []) := by
    unfold scanUnclosed
    rw [opening?_eq_some_iff.mpr rfl, Option.map_some]
  cases hCut : cutAt delimiter.closing inside <;> cases delimiter <;>
    simp [scan, Scan.firstOf, scanDelimited_opening, scanDelimited_of_ne, hCut,
      hUnclosed]

/-- Where no delimiter opens, a run of text is scanned. -/
private theorem scan_of_not_opens {cs : List Char} (h : ¬ Opens cs) :
    scan cs = scanRun cs := by
  have hUnclosed : scanUnclosed cs = none := by
    unfold scanUnclosed
    rw [opening?_eq_none_iff.mpr h, Option.map_none]
  simp only [scan, Scan.firstOf, scanDelimited_of_not_opens h, hUnclosed]
  cases scanRun cs <;> rfl

private theorem scanRun_of_untilOpening {cs contents rest : List Char}
    (hContents : contents ≠ []) (h : untilOpening cs = (contents, rest)) :
    scanRun cs = some (.run contents, rest) := by
  unfold scanRun
  rw [h]
  cases contents with
  | nil => exact absurd rfl hContents
  | cons c more => rfl

theorem scan_nil : scan [] = none := by
  decide

/-- Where a segment fits, it is the one that is scanned. -/
theorem Fits.scan_eq {segment : Segment} {rest : List Char} (h : segment.Fits rest) :
    scan (segment.source ++ rest) = some (segment, rest) := by
  cases h with
  | @delimited delimiter contents rest hFirst =>
      have hCut : cutAt delimiter.closing (contents ++ (delimiter.closing ++ rest)) =
          some (contents, rest) :=
            (cutAt_eq_some_iff delimiter.closing_ne_nil).mpr ⟨rfl, hFirst⟩
      rw [source, List.append_assoc, List.append_assoc, scan_opening, hCut]
  | @unclosed delimiter contents hNone =>
      have hCut := (cutAt_eq_none_iff delimiter.closing_ne_nil).mpr hNone
      rw [source, List.append_nil, scan_opening, hCut]
  | @run contents rest hContents hInside hEnd =>
      have hClosed : ¬ Opens (contents ++ rest) := by
        intro hOpens
        have hLength := hInside [] (contents ++ rest) rfl hOpens
        exact hContents (List.length_eq_zero_iff.mp (Nat.le_zero.mp hLength))
      rw [source, scan_of_not_opens hClosed]
      exact scanRun_of_untilOpening hContents
        (untilOpening_eq_iff.mpr ⟨rfl, hEnd, hInside⟩)

/-- There is always a segment that fits. -/
theorem exists_fits {cs : List Char} (hCs : cs ≠ []) :
    ∃ segment rest, cs = source segment ++ rest ∧ segment.Fits rest := by
  by_cases hOpens : Opens cs
  · obtain ⟨delimiter, inside, rfl⟩ := hOpens
    cases hCut : cutAt delimiter.closing inside with
    | none =>
        have hNone := (cutAt_eq_none_iff delimiter.closing_ne_nil).mp hCut
        exact ⟨.unclosed delimiter inside, [], by rw [source, List.append_nil],
          .unclosed hNone⟩
    | some pair =>
        obtain ⟨contents, rest⟩ := pair
        obtain ⟨rfl, hFirst⟩ := (cutAt_eq_some_iff delimiter.closing_ne_nil).mp hCut
        refine ⟨.delimited delimiter contents, rest, ?_, .delimited hFirst⟩
        rw [source, List.append_assoc, List.append_assoc]
  · cases hUntil : untilOpening cs with
    | mk contents rest =>
        obtain ⟨rfl, hEnd, hInside⟩ := untilOpening_eq_iff.mp hUntil
        have hContents : contents ≠ [] := by
          rintro rfl
          rcases hEnd with rfl | hRest
          · exact hCs rfl
          · exact hOpens hRest
        exact ⟨.run contents, rest, rfl, .run hContents hInside hEnd⟩

/-- A scan reads what fits at the front, and nothing else. -/
theorem scan_eq_some_iff {cs rest : List Char} {segment : Segment} :
    scan cs = some (segment, rest) ↔
      cs = segment.source ++ rest ∧ segment.Fits rest := by
  constructor
  · intro h
    have hCs : cs ≠ [] := by
      rintro rfl
      rw [scan_nil] at h
      cases h
    obtain ⟨found, left, rfl, hFits⟩ := exists_fits hCs
    rw [hFits.scan_eq] at h
    cases h
    exact ⟨rfl, hFits⟩
  · rintro ⟨rfl, hFits⟩
    exact hFits.scan_eq

/-! ## Whole sources -/

/-- A row of segments cuts a source: put together they are the source, and each fits
before those that follow it. -/
structure Cuts (segments : List Segment) (cs : List Char) : Prop where
  whole : segments.flatMap source = cs
  fits : ∀ before segment after, segments = before ++ segment :: after →
    segment.Fits (after.flatMap source)

theorem cuts_nil : Cuts [] [] := by
  refine ⟨rfl, fun before segment after h => ?_⟩
  simp at h

theorem cuts_cons {segment : Segment} {segments : List Segment} {cs : List Char} :
    Cuts (segment :: segments) cs ↔
      ∃ rest, cs = segment.source ++ rest ∧ segment.Fits rest ∧ Cuts segments rest := by
  constructor
  · rintro ⟨rfl, hFits⟩
    refine ⟨segments.flatMap source, List.flatMap_cons,
      hFits [] segment segments rfl, rfl, ?_⟩
    intro before other after hSegments
    exact hFits (segment :: before) other after (by rw [hSegments, List.cons_append])
  · rintro ⟨rest, rfl, hSegment, rfl, hFits⟩
    refine ⟨List.flatMap_cons, fun before other after hSegments => ?_⟩
    cases before with
    | nil =>
        cases hSegments
        exact hSegment
    | cons first before =>
        exact hFits before other after (List.cons.inj hSegments).2

theorem Fits.length_lt {segment : Segment} {rest : List Char} (h : segment.Fits rest) :
    rest.length < (segment.source ++ rest).length := by
  have := List.length_pos_iff.mpr h.source_ne_nil
  rw [List.length_append]
  omega

/-- The row of scans gives the segments that cut the source, and reaches its end. -/
theorem row_scan_of_cuts {segments : List Segment} {cs : List Char}
    (h : Cuts segments cs) :
    scan.row cs = some (segments, []) := by
  induction segments generalizing cs with
  | nil =>
      obtain ⟨rfl, -⟩ := h
      rw [List.flatMap_nil, Scan.row, scan_nil]
  | cons segment segments ih =>
      obtain ⟨rest, rfl, hFits, hRest⟩ := cuts_cons.mp h
      rw [Scan.row, hFits.scan_eq]
      simp only [if_pos hFits.length_lt, ih hRest, Option.map_some]

/-- Every source can be cut. -/
theorem exists_cuts (cs : List Char) : ∃ segments, Cuts segments cs := by
  induction hLength : cs.length using Nat.strongRecOn generalizing cs with
  | ind length ih =>
      by_cases hCs : cs = []
      · exact ⟨[], hCs ▸ cuts_nil⟩
      · obtain ⟨segment, rest, rfl, hFits⟩ := exists_fits hCs
        obtain ⟨segments, hRest⟩ := ih rest.length (hLength ▸ hFits.length_lt) rest rfl
        exact ⟨segment :: segments, cuts_cons.mpr ⟨rest, rfl, hFits, hRest⟩⟩

theorem row_scan_eq_some_iff {segments : List Segment} {cs : List Char} :
    scan.row cs = some (segments, []) ↔ Cuts segments cs := by
  refine ⟨fun h => ?_, row_scan_of_cuts⟩
  obtain ⟨others, hOthers⟩ := exists_cuts cs
  rw [row_scan_of_cuts hOthers] at h
  cases h
  exact hOthers

/-! ## Tokens -/

/-- What token a segment stands for: a run of text for itself, contents between
delimiters for what is left of them without the blanks on either side, and an unclosed
segment for no text. -/
inductive Reads : Segment → Token → Prop where
  | output {contents : List Char} {text : String} (h : Trims contents text) :
      Reads (.delimited .output contents) (.output text)
  | block {contents : List Char} {text : String} (h : Trims contents text) :
      Reads (.delimited .block contents) (.block text)
  | comment {contents : List Char} {text : String} (h : Trims contents text) :
      Reads (.delimited .comment contents) (.comment text)
  | unclosed {delimiter : Delimiter} {contents : List Char} :
      Reads (.unclosed delimiter contents) (.text "")
  | run {contents : List Char} {text : String} (h : text.toList = contents) :
      Reads (.run contents) (.text text)

private theorem reads_token (segment : Segment) : segment.Reads segment.token := by
  cases segment with
  | delimited delimiter contents =>
      cases delimiter with
      | output => exact .output (trims_trim contents)
      | block => exact .block (trims_trim contents)
      | comment => exact .comment (trims_trim contents)
  | unclosed delimiter contents => exact .unclosed
  | run contents => exact .run String.toList_ofList

end Segment

/-- A source can be cut into segments in one way and no other. The scans find this cut
and reach the end of the source with it, and the tokens of the source are what its
segments stand for, one by one. -/
theorem tokenize_cuts (source : String) :
    ∃ segments : List Segment, Segment.Cuts segments source.toList ∧
      (∀ others, Segment.Cuts others source.toList → others = segments) ∧
      Segment.scan.row source.toList = some (segments, []) ∧
      tokenize source = segments.map Segment.token ∧
      ∀ segment ∈ segments, segment.Reads segment.token := by
  obtain ⟨segments, hCuts⟩ := Segment.exists_cuts source.toList
  have hRow := Segment.row_scan_eq_some_iff.mpr hCuts
  refine ⟨segments, hCuts, fun others hOthers => ?_, hRow, ?_,
    fun segment _ => segment.reads_token⟩
  · have hOtherRow := Segment.row_scan_eq_some_iff.mpr hOthers
    rw [hRow] at hOtherRow
    cases hOtherRow
    rfl
  · unfold tokenize
    rw [hRow]

/-- Of overlapping openings the first one counts, and an unclosed one takes the tags
behind it along. -/
example : tokenize "a\x7b\x7b\x7b b \x7d\x7d\x7d\x7b%\x7b\x7b c \x7d\x7d" =
    [.text "a", .output "\x7b b", .text "\x7d", .text ""] := by
  cbv

end TextTemplate
