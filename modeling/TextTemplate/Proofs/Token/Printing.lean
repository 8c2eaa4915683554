import TextTemplate.Proofs.Token.Segmentation

/-!
# Printed tokens are read back

Tokens are printed as an author would write them: a text as it is, the others between
their delimiters with a blank on either side. The blanks keep the contents from running
into a delimiter, so contents are safe unless their own closing delimiter stands in
them. A text has no blanks around it; it is safe if no delimiter opens in it and it does
not end with a brace that would open one together with the brace behind it. Rows of such
tokens are exactly what a source gives in which every delimiter is closed, since an
unclosed one stands for a text that is empty.

## Main results

* `Segment.fits_delimited`, `Segment.fits_run` — where a segment ends, by what stands
  in it.
* `Segment.cuts_printAll` — the segments that a printed row is cut into.
* `allWellPrinted_tokenize_iff` — which sources give tokens that can be told apart when
  they are printed.
* `print_tokenize` — such tokens come back.
-/

namespace TextTemplate

open TextTemplate.Text

/-! ## Printing -/

namespace Token

/-- The token as it is written in a source. -/
def print : Token → String
  | text contents => contents
  | output contents => "\x7b\x7b " ++ contents ++ " \x7d\x7d"
  | block contents => "\x7b% " ++ contents ++ " %\x7d"
  | comment contents => "\x7b# " ++ contents ++ " #\x7d"

/-- A row of tokens as it is written in a source. -/
def printAll : List Token → String
  | [] => ""
  | token :: rest => token.print ++ printAll rest

/-- Whether the token is text. -/
def isText : Token → Bool
  | text _ => true
  | _ => false

end Token

/-- Contents that can stand between the delimiters: they are trimmed, and the closing
delimiter does not occur in them. -/
def Delimiter.Encloses (delimiter : Delimiter) (contents : String) : Prop :=
  trim contents = contents ∧ ¬ delimiter.closing <:+: contents.toList

namespace Token

/-- A token whose contents do not disturb the reading: a text is not empty and no
opening delimiter occurs in it. -/
def WellPrinted : Token → Prop
  | text contents =>
    contents ≠ "" ∧ ∀ delimiter : Delimiter, ¬ delimiter.opening <:+: contents.toList
  | output contents => Delimiter.output.Encloses contents
  | block contents => Delimiter.block.Encloses contents
  | comment contents => Delimiter.comment.Encloses contents

/-- A token may stand before another one: no text before a text, and no text that ends
in an opening brace before anything. -/
def MayPrecede : Token → Token → Prop
  | text contents, next => next.isText = false ∧ contents.toList.getLast? ≠ some '\x7b'
  | _, _ => True

/-- A row of tokens that can be told apart when it is printed. -/
structure AllWellPrinted (tokens : List Token) : Prop where
  each : ∀ token ∈ tokens, token.WellPrinted
  next : ∀ before token follower after, tokens = before ++ token :: follower :: after →
    token.MayPrecede follower

/-- A row whose first token may precede the second one. -/
private theorem allWellPrinted_cons_cons {token follower : Token} {rest : List Token}
    (hToken : token.WellPrinted) (hNext : token.MayPrecede follower)
    (hRest : AllWellPrinted (follower :: rest)) :
    AllWellPrinted (token :: follower :: rest) where
  each := List.forall_mem_cons.mpr ⟨hToken, hRest.each⟩
  next := by
    intro before first second after hTokens
    cases before with
    | nil =>
        cases hTokens
        exact hNext
    | cons other before =>
        exact hRest.next before first second after (List.cons.inj hTokens).2

theorem allWellPrinted_singleton {token : Token} (h : token.WellPrinted) :
    AllWellPrinted [token] where
  each := List.forall_mem_singleton.mpr h
  next := by
    intro before first second after hTokens
    have hLength := congrArg List.length hTokens
    simp only [List.length_append, List.length_cons, List.length_nil] at hLength
    omega

private theorem allWellPrinted_tail {token : Token} {rest : List Token}
    (h : AllWellPrinted (token :: rest)) :
    AllWellPrinted rest where
  each := fun other hMem => h.each other (List.mem_cons_of_mem _ hMem)
  next := fun before other follower after hRest =>
    h.next (token :: before) other follower after (by rw [hRest, List.cons_append])

end Token

/-! ## Where segments end -/

namespace Segment

/-- Contents between delimiters end at the closing delimiter behind them if it does not
occur sooner, not even where its first character is still one of the contents. -/
theorem fits_delimited {delimiter : Delimiter} {contents : List Char} (rest : List Char)
    (h : ¬ delimiter.closing <:+: contents ++ [delimiter.closingMark]) :
    Fits (.delimited delimiter contents) rest := by
  refine .delimited fun left right hSplit => ?_
  apply Classical.byContradiction
  intro hShort
  have hWhole : contents ++ (delimiter.closing ++ rest) =
      (contents ++ [delimiter.closingMark]) ++ ('\x7d' :: rest) := by
    simp [Delimiter.closing]
  have hFront : left ++ delimiter.closing <+: contents ++ (delimiter.closing ++ rest) :=
    ⟨right, by rw [hSplit, List.append_assoc]⟩
  have hContents : contents ++ [delimiter.closingMark] <+: contents ++
      (delimiter.closing ++ rest) :=
    ⟨'\x7d' :: rest, hWhole.symm⟩
  have hLength : (left ++ delimiter.closing).length ≤
      (contents ++ [delimiter.closingMark]).length := by
    simp only [List.length_append, Delimiter.closing, List.length_cons, List.length_nil]
    omega
  obtain ⟨more, hMore⟩ := List.prefix_of_prefix_length_le hFront hContents hLength
  exact h ⟨left, more, hMore⟩

/-- A run of text ends where a delimiter opens behind it if none opens in it, not even
where the brace that opens is its last character. -/
theorem fits_run {contents rest : List Char} (hContents : contents ≠ [])
    (hNone : ∀ delimiter : Delimiter, ¬ delimiter.opening <:+: contents)
    (hRest : rest = [] ∨ Opens rest ∧ contents.getLast? ≠ some '\x7b') :
    Fits (.run contents) rest := by
  refine .run hContents (fun left right hSplit hOpens => ?_) (hRest.imp_right And.left)
  apply Classical.byContradiction
  intro hShort
  obtain ⟨delimiter, after, hAfter⟩ := hOpens
  have hFront : left ++ delimiter.opening <+: contents ++ rest :=
    ⟨after, by rw [hSplit, ← hAfter, List.append_assoc]⟩
  by_cases hInside : left.length + 2 ≤ contents.length
  · have hPrefix : left ++ delimiter.opening <+: contents := by
      refine List.prefix_of_prefix_length_le hFront
        (List.prefix_append contents rest) ?_
      rw [List.length_append]
      exact hInside
    obtain ⟨more, hMore⟩ := hPrefix
    exact hNone delimiter ⟨left, more, hMore⟩
  · -- The brace is the last character of the run, and what follows it belongs to the
    -- rest.
    have hBrace : left ++ ['\x7b'] <+: contents ++ rest :=
      ⟨delimiter.mark :: after, by rw [hSplit, ← hAfter, Delimiter.opening]; simp⟩
    have hLength : contents.length = (left ++ ['\x7b']).length := by
      rw [List.length_append, List.length_singleton]
      omega
    have hSame : contents = left ++ ['\x7b'] :=
      (List.prefix_of_prefix_length_le (List.prefix_append contents rest) hBrace
        (Nat.le_of_eq hLength)).eq_of_length hLength
    rcases hRest with rfl | ⟨-, hLast⟩
    · have hLengths := hFront.length_le
      simp only [List.append_nil, List.length_append, Delimiter.opening,
        List.length_cons, List.length_nil] at hLengths
      omega
    · exact hLast (by rw [hSame, List.getLast?_concat])

/-- A blank on either side keeps contents from the delimiters. -/
private theorem not_closing_infix_spaced {delimiter : Delimiter} {contents : List Char}
    (h : ¬ delimiter.closing <:+: contents) :
    ¬ delimiter.closing <:+: (' ' :: contents ++ [' ']) ++ [delimiter.closingMark] := by
  have hMark : delimiter.closingMark ≠ ' ' := by cases delimiter <;> decide
  rw [List.infix_concat_iff, List.infix_concat_iff, List.infix_cons_iff]
  rintro (⟨front, hFront⟩ | ⟨front, hFront⟩ | ⟨rest, hRest⟩ | hInside)
  · have hEnds := congrArg List.reverse hFront
    simp only [Delimiter.closing, List.reverse_append, List.reverse_cons,
      List.reverse_nil, List.nil_append, List.cons_append, List.cons.injEq] at hEnds
    exact hMark hEnds.2.1
  · have hEnds := congrArg List.getLast? hFront
    rw [Delimiter.closing, List.getLast?_append, List.getLast?_concat] at hEnds
    cases hEnds
  · exact hMark (List.cons.inj hRest).1
  · exact h hInside

/-! ## The segments of a printed row -/

/-- The segment that a printed token is. -/
def ofToken : Token → Segment
  | .text contents => .run contents.toList
  | .output contents => .delimited .output (' ' :: contents.toList ++ [' '])
  | .block contents => .delimited .block (' ' :: contents.toList ++ [' '])
  | .comment contents => .delimited .comment (' ' :: contents.toList ++ [' '])

theorem source_ofToken (token : Token) :
    (ofToken token).source = token.print.toList := by
  cases token <;>
    simp [ofToken, source, Token.print, Delimiter.opening, Delimiter.closing,
      Delimiter.mark, Delimiter.closingMark]

/-- A printed token stands for itself. -/
private theorem token_ofToken {token : Token} (h : token.WellPrinted) :
    (ofToken token).token = token := by
  have hSpaced : ∀ contents : String, trim contents = contents →
      trim (String.ofList (' ' :: contents.toList ++ [' '])) = contents := by
    intro contents hTrim
    have hTrims := trims_of_trim_eq hTrim
    exact trim_around [' '] [' '] (List.all_eq_true.mp rfl) hTrims.start hTrims.finish
  cases token with
  | text contents => rw [ofToken, Segment.token, String.ofList_toList]
  | output contents => rw [ofToken, Segment.token, hSpaced contents h.1]
  | block contents => rw [ofToken, Segment.token, hSpaced contents h.1]
  | comment contents => rw [ofToken, Segment.token, hSpaced contents h.1]

/-- Whatever is printed behind a delimiter begins with an opening one, unless it
is text. -/
private theorem opens_print {token : Token} (h : token.isText = false)
    (rest : List Char) :
    Opens (token.print.toList ++ rest) := by
  rw [← source_ofToken]
  cases token with
  | text contents => exact absurd h (by simp [Token.isText])
  | output contents => exact ⟨.output, by simp [ofToken, source, List.append_assoc]⟩
  | block contents => exact ⟨.block, by simp [ofToken, source, List.append_assoc]⟩
  | comment contents => exact ⟨.comment, by simp [ofToken, source, List.append_assoc]⟩

theorem toList_printAll_cons (token : Token) (rest : List Token) :
    (Token.printAll (token :: rest)).toList = token.print.toList ++
      (Token.printAll rest).toList :=
  String.toList_append

/-- A printed token fits before what may follow it. -/
private theorem fits_ofToken {token : Token} {rest : List Token}
    (h : Token.AllWellPrinted (token :: rest)) :
    Fits (ofToken token) (Token.printAll rest).toList := by
  have hToken := h.each token List.mem_cons_self
  cases token with
  | text contents =>
      refine fits_run (fun hNil =>
        hToken.1 (String.toList_eq_nil_iff.mp hNil)) hToken.2 ?_
      cases rest with
      | nil => exact .inl rfl
      | cons follower others =>
          obtain ⟨hFollower, hLast⟩ := h.next [] (.text contents) follower others rfl
          refine .inr ⟨?_, hLast⟩
          rw [toList_printAll_cons]
          exact opens_print hFollower _
  | output contents => exact fits_delimited _ (not_closing_infix_spaced hToken.2)
  | block contents => exact fits_delimited _ (not_closing_infix_spaced hToken.2)
  | comment contents => exact fits_delimited _ (not_closing_infix_spaced hToken.2)

/-- A printed row is cut into its tokens. -/
theorem cuts_printAll {tokens : List Token} (h : Token.AllWellPrinted tokens) :
    Cuts (tokens.map ofToken) (Token.printAll tokens).toList := by
  induction tokens with
  | nil => exact cuts_nil
  | cons token rest ih =>
      rw [List.map_cons, cuts_cons]
      refine ⟨(Token.printAll rest).toList, ?_, fits_ofToken h,
        ih (Token.allWellPrinted_tail h)⟩
      rw [toList_printAll_cons, source_ofToken]

/-! ## The tokens of a source -/

/-- No delimiter is left open in a row of segments. -/
def NoneUnclosed (segments : List Segment) : Prop :=
  ∀ delimiter contents, .unclosed delimiter contents ∉ segments

/-- A segment that is closed gives a token that can be printed. -/
theorem Fits.wellPrinted {segment : Segment} {rest : List Char} (h : segment.Fits rest)
    (hClosed : ∀ delimiter contents, segment ≠ .unclosed delimiter contents) :
    segment.token.WellPrinted := by
  cases h with
  | unclosed => exact absurd rfl (hClosed _ _)
  | @run contents rest hContents hInside hEnd =>
      refine ⟨fun hEmpty => hContents ?_, fun delimiter hInfix => ?_⟩
      · rw [← String.toList_ofList (l := contents), hEmpty, String.toList_empty]
      · rw [String.toList_ofList] at hInfix
        obtain ⟨left, right, hSplit⟩ := hInfix
        have hLength := hInside left (delimiter.opening ++ right ++ rest)
          (by rw [← hSplit]; simp) ⟨delimiter, right ++ rest, by simp⟩
        rw [← hSplit] at hLength
        simp only [Delimiter.opening, List.length_append, List.length_cons,
          List.length_nil] at hLength
        omega
  | @delimited delimiter contents rest hFirst =>
      have hEncloses : delimiter.Encloses (trim (String.ofList contents)) := by
        have hTrims := trims_trim contents
        obtain ⟨before, after, hAround, -⟩ := hTrims.around
        refine ⟨hTrims.trim_self, fun hInfix => ?_⟩
        have hContents : delimiter.closing <:+: contents := by
          rw [hAround]
          exact hInfix.trans ⟨before, after, rfl⟩
        obtain ⟨left, right, hSplit⟩ := hContents
        have hLength := hFirst left (right ++ (delimiter.closing ++ rest))
          (by rw [← hSplit]; simp)
        rw [← hSplit] at hLength
        simp only [Delimiter.closing, List.length_append, List.length_cons,
          List.length_nil] at hLength
        omega
      cases delimiter <;> exact hEncloses

/-- Where a run fits, no delimiter opens. -/
private theorem not_opens_of_fits_run {contents rest : List Char}
    (h : Fits (.run contents) rest) :
    ¬ Opens (contents ++ rest) := by
  cases h with
  | run hContents hInside hEnd =>
      intro hOpens
      have hLength := hInside [] (contents ++ rest) rfl hOpens
      exact hContents (List.length_eq_zero_iff.mp (Nat.le_zero.mp hLength))

/-- A token may precede that of the segment behind it: a run ends only where a delimiter
opens, and its last character cannot be the brace that would open one sooner. -/
theorem Fits.mayPrecede {segment follower : Segment} {rest : List Char}
    (h : segment.Fits (follower.source ++ rest)) (hFollower : follower.Fits rest)
    (hClosed : ∀ delimiter contents, follower ≠ .unclosed delimiter contents) :
    segment.token.MayPrecede follower.token := by
  generalize hBehind : follower.source ++ rest = behind at h
  cases h with
  | unclosed =>
      exact absurd (List.append_eq_nil_iff.mp hBehind).1 hFollower.source_ne_nil
  | @delimited delimiter contents => cases delimiter <;> trivial
  | @run contents _ hContents hInside hEnd =>
      have hOpens : Opens behind := by
        refine hEnd.resolve_left fun hNil => hFollower.source_ne_nil ?_
        exact (List.append_eq_nil_iff.mp (hBehind.trans hNil)).1
      cases follower with
      | unclosed delimiter others => exact absurd rfl (hClosed delimiter others)
      | run others => exact absurd (hBehind ▸ hOpens) (not_opens_of_fits_run hFollower)
      | delimited delimiter others =>
          refine ⟨by cases delimiter <;> rfl, fun hLast => ?_⟩
          rw [String.toList_ofList] at hLast
          obtain ⟨left, hLeft⟩ := List.getLast?_eq_some_iff.mp hLast
          have hSooner : Opens ('\x7b' :: behind) := by
            rw [← hBehind]
            exact ⟨.output, by simp [source, Delimiter.opening, Delimiter.mark]⟩
          have hLength := hInside left ('\x7b' :: behind) (by rw [hLeft]; simp) hSooner
          rw [hLeft, List.length_append, List.length_singleton] at hLength
          omega

/-- A row of closed segments that cuts a source gives tokens that can be told apart when
they are printed. -/
theorem Cuts.allWellPrinted {segments : List Segment} {cs : List Char}
    (h : Cuts segments cs) (hClosed : NoneUnclosed segments) :
    Token.AllWellPrinted (segments.map token) where
  each := by
    intro token hMem
    obtain ⟨segment, hSegment, rfl⟩ := List.mem_map.mp hMem
    obtain ⟨before, after, hSegments⟩ := List.append_of_mem hSegment
    refine (h.fits before segment after hSegments).wellPrinted ?_
    rintro delimiter contents rfl
    exact hClosed delimiter contents hSegment
  next := by
    intro before token follower after hTokens
    obtain ⟨front, back, hSegments, -, hBack⟩ := List.map_eq_append_iff.mp hTokens
    obtain ⟨segment, others, rfl, rfl, hOthers⟩ := List.map_eq_cons_iff.mp hBack
    obtain ⟨next, rest, rfl, rfl, -⟩ := List.map_eq_cons_iff.mp hOthers
    have hNext : next.Fits (rest.flatMap source) :=
      h.fits (front ++ [segment]) next rest
        (by rw [hSegments, List.append_assoc, List.singleton_append])
    refine (h.fits front segment (next :: rest) hSegments).mayPrecede hNext ?_
    rintro delimiter contents rfl
    exact hClosed delimiter contents (by rw [hSegments]; simp)

end Segment

/-! ## Whole sources -/

/-- An opening delimiter of the source is not closed: its cut has a segment that is
left open. -/
def EndsUnclosed (source : String) : Prop :=
  ∃ segments, Segment.Cuts segments source.toList ∧ ¬ Segment.NoneUnclosed segments

theorem tokenize_of_cuts {segments : List Segment} {source : String}
    (h : Segment.Cuts segments source.toList) :
    tokenize source = segments.map Segment.token := by
  unfold tokenize
  rw [Segment.row_scan_of_cuts h]

/-- The tokens of a printed row are the row. -/
theorem tokenize_printAll {tokens : List Token} (h : Token.AllWellPrinted tokens) :
    tokenize (Token.printAll tokens) = tokens := by
  rw [tokenize_of_cuts (Segment.cuts_printAll h), List.map_map]
  have hSelf : ∀ token ∈ tokens, (Segment.token ∘ Segment.ofToken) token = token :=
    fun token hMem => Segment.token_ofToken (h.each token hMem)
  rw [List.map_congr_left hSelf, List.map_id']

/-- The token of a segment is a text without contents exactly if the segment is
left open. -/
theorem Segment.Fits.token_eq_empty_iff {segment : Segment} {rest : List Char}
    (h : segment.Fits rest) :
    segment.token = .text "" ↔
      ∃ delimiter contents, segment = .unclosed delimiter contents := by
  cases h with
  | @delimited delimiter contents => cases delimiter <;> simp [Segment.token]
  | @unclosed delimiter contents => simp [Segment.token]
  | @run contents _ hContents => simpa [Segment.token] using hContents

/-- A source with an unclosed delimiter is one with a text that has no contents among
its tokens. -/
theorem endsUnclosed_iff {source : String} :
    EndsUnclosed source ↔ .text "" ∈ tokenize source := by
  have hFits : ∀ {segments : List Segment} {segment : Segment},
      Segment.Cuts segments source.toList →
      segment ∈ segments → ∃ rest, segment.Fits rest := by
    intro segments segment hCuts hMem
    obtain ⟨before, after, hSegments⟩ := List.append_of_mem hMem
    exact ⟨_, hCuts.fits before segment after hSegments⟩
  constructor
  · rintro ⟨segments, hCuts, hUnclosed⟩
    rw [tokenize_of_cuts hCuts]
    apply Classical.byContradiction
    intro hNot
    refine hUnclosed fun delimiter contents hMem => hNot ?_
    exact List.mem_map.mpr ⟨_, hMem, rfl⟩
  · intro hEmpty
    obtain ⟨segments, hCuts⟩ := Segment.exists_cuts source.toList
    rw [tokenize_of_cuts hCuts] at hEmpty
    obtain ⟨segment, hMem, hToken⟩ := List.mem_map.mp hEmpty
    obtain ⟨rest, hRest⟩ := hFits hCuts hMem
    obtain ⟨delimiter, contents, rfl⟩ := hRest.token_eq_empty_iff.mp hToken
    exact ⟨segments, hCuts, fun hNone => hNone delimiter contents hMem⟩

/-- The tokens of a source can be told apart when they are printed exactly if it has no
unclosed delimiter. -/
theorem allWellPrinted_tokenize_iff {source : String} :
    Token.AllWellPrinted (tokenize source) ↔ ¬ EndsUnclosed source := by
  constructor
  · intro h hUnclosed
    exact (h.each _ (endsUnclosed_iff.mp hUnclosed)).1 rfl
  · intro h
    obtain ⟨segments, hCuts⟩ := Segment.exists_cuts source.toList
    have hClosed : Segment.NoneUnclosed segments :=
      Classical.byContradiction fun hUnclosed => h ⟨segments, hCuts, hUnclosed⟩
    rw [tokenize_of_cuts hCuts]
    exact hCuts.allWellPrinted hClosed

/-- Tokens that can be told apart come back when they are printed, and the sources
without an unclosed delimiter are those that give such tokens, so printing their tokens
and reading again changes nothing. -/
theorem print_tokenize :
    (∀ tokens, Token.AllWellPrinted tokens →
      tokenize (Token.printAll tokens) = tokens) ∧
      ∀ source, (Token.AllWellPrinted (tokenize source) ↔ ¬ EndsUnclosed source) ∧
        (¬ EndsUnclosed source →
          tokenize (Token.printAll (tokenize source)) = tokenize source) := by
  refine ⟨fun tokens h => tokenize_printAll h, fun source => ?_⟩
  exact ⟨allWellPrinted_tokenize_iff,
    fun h => tokenize_printAll (allWellPrinted_tokenize_iff.mpr h)⟩

/-- Braces and marks at the ends of contents and texts do not run into the
delimiters. -/
theorem print_tokenize_of_braces :
    Token.AllWellPrinted [.text "\x7d", .output "\x7d b %", .comment "", .text "\x7b"] ∧
      tokenize (Token.printAll [.text "\x7d", .output "\x7d b %", .comment "",
        .text "\x7b"]) =
        [.text "\x7d", .output "\x7d b %", .comment "", .text "\x7b"] ∧
      ¬ EndsUnclosed "\x7b\x7ba\x7d\x7d\x7b%% %\x7d" ∧
      tokenize (Token.printAll (tokenize "\x7b\x7ba\x7d\x7d\x7b%% %\x7d")) =
        tokenize "\x7b\x7ba\x7d\x7d\x7b%% %\x7d" := by
  have hFirst : (Token.text "\x7d").WellPrinted :=
    ⟨by decide, fun delimiter => by cases delimiter <;> decide⟩
  have hLast : (Token.text "\x7b").WellPrinted :=
    ⟨by decide, fun delimiter => by cases delimiter <;> decide⟩
  have hOutput : (Token.output "\x7d b %").WellPrinted := ⟨by decide, by decide⟩
  have hComment : (Token.comment "").WellPrinted := ⟨by decide, by decide⟩
  have hTokens : Token.AllWellPrinted
      [.text "\x7d", .output "\x7d b %", .comment "", .text "\x7b"] :=
    Token.allWellPrinted_cons_cons hFirst ⟨rfl, by decide⟩
      (Token.allWellPrinted_cons_cons hOutput trivial
        (Token.allWellPrinted_cons_cons hComment trivial
          (Token.allWellPrinted_singleton hLast)))
  have hSource : ¬ EndsUnclosed "\x7b\x7ba\x7d\x7d\x7b%% %\x7d" := by
    have hRead : tokenize "\x7b\x7ba\x7d\x7d\x7b%% %\x7d" =
        [.output "a", .block "%"] := by cbv
    rw [endsUnclosed_iff, hRead]
    decide
  exact ⟨hTokens, print_tokenize.1 _ hTokens, hSource, (print_tokenize.2 _).2 hSource⟩

end TextTemplate
