import TextTemplate.Extension
import TextTemplate.Filter.Chain
import TextTemplate.Proofs.Token.Row

/-!
# Filter chains as they are written

An author may put any number of blanks around the bars, colons and commas of a filter
chain, and anything but quotes between the quotes of an operand. The chain is read by
three divisions, one inside the other: at bars into the base and the filters, at colons
into a filter's name and its arguments, and at commas into the arguments. Each time what
is divided is a row of pieces that are inert for its mark, and the blanks around the
pieces are trimmed. A block is divided at blanks before any of this, and the words of a
chain are then glued to a single component.

## Main results

* `WrittenFilter.readFilter_text` — the name and the arguments of a written filter.
* `WrittenChain.components_text` — a written chain in a block.
* `WrittenChain.compile_text` — a written chain is compiled to what was written.
-/

namespace TextTemplate

open TextTemplate.Text

/-! ## Written chains -/

/-- A plain word: it is not empty, and neither blanks nor quotes nor marks stand in
it. -/
def IsPlainWord (word : List Char) : Prop :=
  word ≠ [] ∧ ∀ c ∈ word, isBlank c = false ∧ isQuote c = false ∧ isMark c = false

/-- How an operand may be written: as a plain word, or in quotes around anything that
has no quotes in it. -/
inductive IsWrittenOperand : List Char → Prop where
  | word {word : List Char} (h : IsPlainWord word) : IsWrittenOperand word
  | quoted {quote : Char} {contents : List Char} (hQuote : isQuote quote = true)
      (hContents : ∀ c ∈ contents, isQuote c = false) :
        IsWrittenOperand (quote :: (contents ++ [quote]))

namespace IsPlainWord

variable {word : List Char}

theorem solid (h : IsPlainWord word) : Solid word where
  start := by
    obtain ⟨c, rest, rfl⟩ := List.exists_cons_of_ne_nil h.1
    obtain ⟨hBlank, -, hMark⟩ := h.2 c List.mem_cons_self
    exact ⟨c, rest, rfl, hBlank, hMark⟩
  finish := by
    have hLast := h.2 _ (List.getLast_mem h.1)
    exact ⟨word.dropLast, word.getLast h.1, (List.dropLast_concat_getLast h.1).symm,
      hLast.1, hLast.2.2⟩

/-- A plain word is inert for marks and for blanks. -/
theorem inert (h : IsPlainWord word) {separator : Char}
    (hSeparator : isMark separator = true ∨ separator = ' ') :
    Inert separator word := by
  refine inert_plain fun c hMem => ?_
  obtain ⟨hBlank, hQuote, hMark⟩ := h.2 c hMem
  refine ⟨?_, hQuote⟩
  rintro rfl
  rcases hSeparator with hSeparator | rfl
  · rw [hMark] at hSeparator
    cases hSeparator
  · exact absurd hBlank (by decide)

end IsPlainWord

namespace IsWrittenOperand

variable {operand : List Char}

theorem solid (h : IsWrittenOperand operand) : Solid operand := by
  cases h with
  | word hWord => exact hWord.solid
  | @quoted quote contents hQuote hContents =>
      have hEnds : isBlank quote = false ∧ isMark quote = false := by
        have hKind : quote = '\'' ∨ quote = '"' := by simpa [isQuote] using hQuote
        rcases hKind with rfl | rfl <;> decide
      exact ⟨⟨quote, contents ++ [quote], rfl, hEnds⟩,
        ⟨quote :: contents, quote, rfl, hEnds⟩⟩

/-- A written operand is inert for marks and for blanks. -/
theorem inert (h : IsWrittenOperand operand) {separator : Char}
    (hSeparator : isMark separator = true ∨ separator = ' ') :
    Inert separator operand := by
  cases h with
  | word hWord => exact hWord.inert hSeparator
  | quoted hQuote hContents =>
      refine inert_quoted ?_ hQuote hContents
      rcases hSeparator with hMark | rfl
      · exact isQuote_of_isMark hMark
      · decide

end IsWrittenOperand

/-- An operand as it is written. -/
structure WrittenOperand where
  text : String
  written : IsWrittenOperand text.toList

/-- A filter as it is written, with the blanks around its bar and around the mark before
each argument. -/
structure WrittenFilter where
  gap : Gap
  name : String
  written : IsPlainWord name.toList
  arguments : List (Gap × WrittenOperand)

/-- A filter chain as it is written. -/
structure WrittenChain where
  base : WrittenOperand
  filters : List WrittenFilter

/-- The arguments of a filter, the first one behind the given mark and the others
behind commas. -/
def argumentLinks (mark : Char) : List (Gap × WrittenOperand) → List Link
  | [] => []
  | (gap, operand) :: rest => ⟨gap, mark, operand.text.toList⟩ :: argumentLinks ',' rest

/-- The marks and the pieces of written arguments. -/
theorem of_mem_argumentLinks {mark : Char} {arguments : List (Gap × WrittenOperand)}
    {link : Link} (h : link ∈ argumentLinks mark arguments) :
    (link.mark = mark ∨ link.mark = ',') ∧ IsWrittenOperand link.piece := by
  induction arguments generalizing mark with
  | nil => cases h
  | cons argument rest ih =>
      obtain ⟨gap, operand⟩ := argument
      rcases List.mem_cons.mp h with rfl | hRest
      · exact ⟨.inl rfl, operand.written⟩
      · obtain ⟨hMark, hPiece⟩ := ih hRest
        exact ⟨.inr (hMark.elim id id), hPiece⟩

private theorem pieces_argumentLinks (mark : Char)
    (arguments : List (Gap × WrittenOperand)) :
    (argumentLinks mark arguments).map (fun link => String.ofList link.piece) =
      arguments.map fun argument => argument.2.text := by
  induction arguments generalizing mark with
  | nil => rfl
  | cons argument rest ih =>
      obtain ⟨gap, operand⟩ := argument
      rw [argumentLinks, List.map_cons, List.map_cons, ih, String.ofList_toList]

/-- Written arguments are inert for a mark that does not stand between them. -/
theorem inert_arguments {separator mark : Char} (hSeparator : isMark separator = true)
    (hMark : isMark mark = true) (hOther : mark ≠ separator) (hComma : separator ≠ ',')
    {first : List Char} (hFirst : Inert separator first)
    (arguments : List (Gap × WrittenOperand)) :
    Inert separator (rowChars first (argumentLinks mark arguments)) := by
  refine inert_row hSeparator hFirst fun link hMem => ?_
  obtain ⟨hLink, hPiece⟩ := of_mem_argumentLinks hMem
  refine ⟨?_, ?_, hPiece.inert (.inl hSeparator)⟩
  · rcases hLink with hLink | hLink
    · rwa [hLink]
    · rw [hLink]
      decide
  · rcases hLink with hLink | hLink
    · rwa [hLink]
    · rw [hLink]
      exact Ne.symm hComma

theorem solid_arguments {mark : Char} {first : List Char} (hFirst : Solid first)
    (arguments : List (Gap × WrittenOperand)) :
    Solid (rowChars first (argumentLinks mark arguments)) :=
  hFirst.row fun _ hMem => (of_mem_argumentLinks hMem).2.solid

/-- The division at commas gives the arguments, whatever blanks stand before the
first one. -/
private theorem trim_splitPhrases_arguments (leading : Nat) (operand : WrittenOperand)
    (rest : List (Gap × WrittenOperand)) :
    (splitPhrases ',' (String.ofList
      (List.replicate leading ' ' ++
        rowChars operand.text.toList (argumentLinks ',' rest)))).map trim =
      operand.text :: rest.map fun argument => argument.2.text := by
  have hLinks : ∀ link ∈ argumentLinks ',' rest,
      link.mark = ',' ∧ Inert ',' link.piece ∧ Solid link.piece := by
    intro link hMem
    obtain ⟨hMark, hPiece⟩ := of_mem_argumentLinks hMem
    exact ⟨hMark.elim id id, hPiece.inert (.inl rfl), hPiece.solid⟩
  rw [trim_splitPhrases_row rfl hLinks leading (operand.written.inert (.inl rfl))
    operand.written.solid,
    pieces_argumentLinks, String.ofList_toList]

namespace WrittenFilter

/-- The text of the filter: its name, and its arguments behind a colon and commas. -/
def text (written : WrittenFilter) : String :=
  String.ofList (rowChars written.name.toList (argumentLinks ':' written.arguments))

/-- The variables that the arguments write. -/
def operands (written : WrittenFilter) : List Variable :=
  written.arguments.map fun argument => Variable.ofString argument.2.text

/-- The filter with all blanks around its marks left out. -/
def tight (written : WrittenFilter) : WrittenFilter :=
  { written with
    gap := ⟨0, 0⟩
    arguments := written.arguments.map fun argument => (⟨0, 0⟩, argument.2) }

/-- The filter's bar, with the name behind it, and its arguments. -/
def links (written : WrittenFilter) : List Link :=
  ⟨written.gap, '|', written.name.toList⟩ :: argumentLinks ':' written.arguments

theorem toList_text (written : WrittenFilter) :
    written.text.toList = rowChars written.name.toList
      (argumentLinks ':' written.arguments) :=
  String.toList_ofList

theorem inert_text (written : WrittenFilter) : Inert '|' written.text.toList := by
  rw [toList_text]
  exact inert_arguments rfl rfl (by decide) (by decide)
    (written.written.inert (.inl rfl)) written.arguments

theorem solid_text (written : WrittenFilter) : Solid written.text.toList := by
  rw [toList_text]
  exact solid_arguments written.written.solid written.arguments

/-- The division at colons gives the name alone, or the name and all arguments. -/
theorem splitPhrases_text (written : WrittenFilter) :
    (written.arguments = [] ∧ splitPhrases ':' written.text = [written.name]) ∨
      ∃ gap operand rest, written.arguments = (gap, operand) :: rest ∧
        splitPhrases ':' written.text =
          [String.ofList (written.name.toList ++ List.replicate gap.before ' '),
            String.ofList (List.replicate gap.after ' ' ++
              rowChars operand.text.toList (argumentLinks ',' rest))] := by
  have hName : Inert ':' written.name.toList := written.written.inert (.inl rfl)
  have hNameSolid := written.written.solid
  rcases hArguments : written.arguments with _ | ⟨⟨gap, operand⟩, rest⟩
  · have hLinks : ∀ link ∈ ([] : List Link), link.mark = ':' ∧ Inert ':' link.piece ∧
        Solid link.piece :=
      fun _ hMem => absurd hMem List.not_mem_nil
    have hSplit := splitPhrases_row rfl hLinks 0 hName hNameSolid
    refine .inl ⟨rfl, ?_⟩
    rw [text, hArguments, argumentLinks]
    refine hSplit.trans ?_
    rw [rowWords, List.map_singleton, List.replicate_zero, List.nil_append,
      String.ofList_toList]
  · have hOperand : Inert ':' operand.text.toList := operand.written.inert (.inl rfl)
    -- Behind the only colon all arguments are one piece, as commas do not divide here.
    let behind : Link :=
      ⟨gap, ':', rowChars operand.text.toList (argumentLinks ',' rest)⟩
    have hLinks : ∀ link ∈ [behind], link.mark = ':' ∧ Inert ':' link.piece ∧
        Solid link.piece :=
      List.forall_mem_singleton.mpr ⟨rfl,
        inert_arguments rfl rfl (by decide) (by decide) hOperand rest,
          solid_arguments operand.written.solid rest⟩
    have hSplit := splitPhrases_row rfl hLinks 0 hName hNameSolid
    have hText : rowChars written.name.toList
        (argumentLinks ':' ((gap, operand) :: rest)) =
        rowChars written.name.toList [behind] := by
      simp [behind, argumentLinks, rowChars, Link.chars]
    refine .inr ⟨gap, operand, rest, rfl, ?_⟩
    rw [text, hArguments, hText]
    exact hSplit

/-- A written filter is read as its name and the variables of its arguments. -/
theorem readFilter_text (written : WrittenFilter) :
    FilterChain.readFilter written.text = (written.name, written.operands) := by
  have hName : ∀ count, trim
      (String.ofList (written.name.toList ++ List.replicate count ' ')) =
      written.name := by
    intro count
    have hShows := written.written.solid.shows 0 count
    rw [List.replicate_zero, List.nil_append] at hShows
    rw [hShows.trims, String.ofList_toList]
  have hAlone := hName 0
  rw [List.replicate_zero, List.append_nil, String.ofList_toList] at hAlone
  rcases written.splitPhrases_text with ⟨hNone, hSplit⟩ | ⟨gap, operand, rest,
    hArguments, hSplit⟩
  · rw [FilterChain.readFilter, hSplit, operands, hNone]
    exact congrArg (·, _) hAlone
  · have hPieces := trim_splitPhrases_arguments gap.after operand rest
    have hVariables : ∀ pieces : List String,
        pieces.map (fun argument => Variable.ofString (trim argument)) =
          (pieces.map trim).map Variable.ofString := by
      intro pieces
      rw [List.map_map]
      rfl
    rw [FilterChain.readFilter, hSplit]
    simp only [hName]
    show (written.name,
      (splitPhrases ',' (String.ofList (List.replicate gap.after ' ' ++
          rowChars operand.text.toList (argumentLinks ',' rest)))).map
        fun argument => Variable.ofString (trim argument)) = _
    rw [hVariables, hPieces, operands, hArguments, List.map_cons, List.map_map,
      List.map_cons]
    rfl

end WrittenFilter

namespace WrittenChain

/-- The text of the chain: its base and its filters behind bars. -/
def text (chain : WrittenChain) : String :=
  String.ofList (rowChars chain.base.text.toList
    (chain.filters.map fun written => ⟨written.gap, '|', written.text.toList⟩))

/-- The chain with all blanks around its marks left out. -/
def tight (chain : WrittenChain) : WrittenChain :=
  { chain with filters := chain.filters.map WrittenFilter.tight }

/-- All marks of the chain, with the names and operands behind them. -/
def links (chain : WrittenChain) : List Link :=
  chain.filters.flatMap WrittenFilter.links

/-- The text of a chain is the row of its names and operands. -/
theorem toList_text (chain : WrittenChain) :
    chain.text.toList = rowChars chain.base.text.toList chain.links := by
  have hFilter : ∀ written : WrittenFilter,
      (Link.mk written.gap '|' written.text.toList).chars =
        written.links.flatMap Link.chars := by
    intro written
    simp [WrittenFilter.text, WrittenFilter.links, Link.chars, rowChars]
  have hFilters : (chain.filters.map fun written : WrittenFilter =>
        (Link.mk written.gap '|' written.text.toList)).flatMap Link.chars =
      chain.links.flatMap Link.chars := by
    rw [links, List.flatMap_map, List.flatMap_assoc]
    exact congrArg chain.filters.flatMap (funext hFilter)
  rw [text, String.toList_ofList, rowChars, rowChars, hFilters]

/-- The division at bars gives the base and the filters. -/
theorem trim_splitPhrases_text (chain : WrittenChain) :
    (splitPhrases '|' chain.text).map trim =
      chain.base.text :: chain.filters.map WrittenFilter.text := by
  have hLinks : ∀ link ∈ chain.filters.map fun written =>
      (Link.mk written.gap '|' written.text.toList),
      link.mark = '|' ∧ Inert '|' link.piece ∧ Solid link.piece := by
    intro link hMem
    obtain ⟨written, -, rfl⟩ := List.mem_map.mp hMem
    exact ⟨rfl, written.inert_text, written.solid_text⟩
  have hSplit := trim_splitPhrases_row rfl hLinks 0
    (chain.base.written.inert (.inl rfl)) chain.base.written.solid
  rw [List.replicate_zero, List.nil_append, String.ofList_toList, List.map_map]
    at hSplit
  rw [text, hSplit]
  exact congrArg _ (List.map_congr_left fun written _ => String.ofList_toList)

/-- A written chain whose filters are found is compiled to what was written. -/
theorem compile_of_found {find : FilterFinder} {filterOf : String → Filter}
    (chain : WrittenChain)
    (hFound : ∀ written ∈ chain.filters,
      find written.name = .ok (filterOf written.name)) :
    FilterChain.compile find chain.text =
      .ok ⟨chain.text, Variable.ofString chain.base.text,
        chain.filters.map fun written => ⟨filterOf written.name,
          written.operands⟩⟩ := by
  have hFilters : (chain.filters.map WrittenFilter.text).mapM
      (FilterChain.compileFilter find) =
      .ok (chain.filters.map fun written => ⟨filterOf written.name,
        written.operands⟩) := by
    generalize chain.filters = filters at hFound
    induction filters with
    | nil => rfl
    | cons written rest ih =>
        obtain ⟨hWritten, hRest⟩ := List.forall_mem_cons.mp hFound
        have hFirst : FilterChain.compileFilter find written.text =
            .ok ⟨filterOf written.name, written.operands⟩ := by
          rw [FilterChain.compileFilter, written.readFilter_text]
          simp only [hWritten]
          rfl
        rw [List.map_cons, List.mapM_cons, hFirst, ih hRest]
        rfl
  rw [FilterChain.compile, trim_splitPhrases_text]
  simp only [hFilters]
  rfl

/-- Each mark of a chain stands before a name or an operand. -/
theorem of_mem_links {chain : WrittenChain} {link : Link} (h : link ∈ chain.links) :
    isMark link.mark = true ∧ Inert ' ' link.piece ∧ link.piece ≠ [] := by
  obtain ⟨written, -, hLink⟩ := List.mem_flatMap.mp h
  rcases List.mem_cons.mp hLink with rfl | hArgument
  · exact ⟨rfl, written.written.inert (.inr rfl), written.written.solid.ne_nil⟩
  · obtain ⟨hMark, hPiece⟩ := of_mem_argumentLinks hArgument
    refine ⟨?_, hPiece.inert (.inr rfl), hPiece.solid.ne_nil⟩
    rcases hMark with hMark | hMark <;> rw [hMark] <;> rfl

theorem links_tight (chain : WrittenChain) :
    chain.tight.links = chain.links.map Link.tight := by
  have hArguments : ∀ (mark : Char) (arguments : List (Gap × WrittenOperand)),
      argumentLinks mark (arguments.map fun argument => (⟨0, 0⟩, argument.2)) =
        (argumentLinks mark arguments).map Link.tight := by
    intro mark arguments
    induction arguments generalizing mark with
    | nil => rfl
    | cons argument rest ih =>
        obtain ⟨gap, operand⟩ := argument
        rw [List.map_cons, argumentLinks, ih, argumentLinks, List.map_cons]
        rfl
  have hFilter : ∀ written : WrittenFilter,
      written.tight.links = written.links.map Link.tight := by
    intro written
    rw [WrittenFilter.links, WrittenFilter.links, List.map_cons, ← hArguments]
    rfl
  rw [links, links, tight, List.flatMap_map, List.map_flatMap]
  exact congrArg chain.filters.flatMap (funext hFilter)

/-- A block that holds a written chain has one component, the chain without the blanks
around its marks, if every mark with a blank before it has one behind it. -/
theorem components_text {chain : WrittenChain}
    (h : ∀ link ∈ chain.links, link.Followed) :
    (Token.block chain.text).components = [chain.tight.text] := by
  have hLinks : ∀ link ∈ chain.links, isMark link.mark = true ∧ link.Followed ∧
      Inert ' ' link.piece ∧ link.piece ≠ [] := by
    intro link hMem
    obtain ⟨hMark, hPiece⟩ := of_mem_links hMem
    exact ⟨hMark, h link hMem, hPiece⟩
  have hTight : chain.tight.text.toList =
      rowChars chain.base.text.toList (chain.links.map Link.tight) := by
    rw [toList_text, links_tight]
    rfl
  rw [Token.components, Token.contents, splitPhrases, toList_text,
    components_row (chain.base.written.inert (.inr rfl))
      chain.base.written.solid.ne_nil hLinks,
    ← hTight, List.map_singleton, String.ofList_toList]

/-- A written chain is compiled to the variable of its base, the filters that are found
under the names, in their order, and the variables of their arguments, whatever blanks
stand around its marks. As part of a block it is a single component if no mark has a
blank only before it. -/
theorem compile_text {find : FilterFinder} {filterOf : String → Filter}
    (chain : WrittenChain)
    (hFound : ∀ written ∈ chain.filters,
      find written.name = .ok (filterOf written.name)) :
    FilterChain.compile find chain.text =
        .ok ⟨chain.text, Variable.ofString chain.base.text,
          chain.filters.map fun written => ⟨filterOf written.name,
            written.arguments.map fun argument => Variable.ofString argument.2.text⟩⟩ ∧
      ((∀ link ∈ chain.links, link.Followed) →
        (Token.block chain.text).components = [chain.tight.text]) :=
  ⟨chain.compile_of_found hFound, components_text⟩

/-- The chain `'a | b: c' | join:", " , x| uppercase`. -/
def spaced : WrittenChain where
  base := ⟨"'a | b: c'", @IsWrittenOperand.quoted '\'' "a | b: c".toList rfl
    (by simp [isQuote])⟩
  filters :=
    [⟨⟨1, 1⟩, "join", by simp [IsPlainWord, isBlank, isQuote, isMark],
      [(⟨0, 0⟩, ⟨"\", \"", @IsWrittenOperand.quoted '"' ", ".toList rfl
        (by simp [isQuote])⟩),
       (⟨1, 1⟩, ⟨"x", .word (by simp [IsPlainWord, isBlank, isQuote, isMark])⟩)]⟩,
     ⟨⟨0, 1⟩, "uppercase", by simp [IsPlainWord, isBlank, isQuote, isMark], []⟩]

/-- Marks in quotes do not divide, and blanks around the other marks do not matter. -/
theorem compile_text_of_spaced :
    spaced.text = "'a | b: c' | join:\", \" , x| uppercase" ∧
      FilterChain.compile (Registry.findFilter [Extension.standard]) spaced.text =
        .ok ⟨spaced.text, Variable.ofString "'a | b: c'",
          [⟨.withArguments Filter.join,
            [Variable.ofString "\", \"", Variable.ofString "x"]⟩,
           ⟨.plain Filter.uppercase, []⟩]⟩ ∧
      (Token.block spaced.text).components =
        ["'a | b: c'|join:\", \",x|uppercase"] := by
  have hStandard : ∀ {name : String} {filter : Filter},
      (name, filter) ∈ Filter.standard →
      Registry.findFilter [Extension.standard] name = .ok filter := by
    intro name filter hMem
    have hGet : Extension.standard.filters.get? name = some filter :=
      (Mapping.get?_ofList_eq_some_iff (by decide)).mpr hMem
    rw [Registry.findFilter, List.findSome?_singleton, hGet]
  let filterOf : String → Filter := fun name =>
    if name = "join" then .withArguments Filter.join else .plain Filter.uppercase
  have hFound : ∀ written ∈ spaced.filters,
      Registry.findFilter [Extension.standard] written.name =
        .ok (filterOf written.name) := by
    intro written hMem
    simp only [spaced, List.mem_cons, List.not_mem_nil, or_false] at hMem
    rcases hMem with rfl | rfl
    · exact hStandard (by simp [filterOf, Filter.standard])
    · exact hStandard (by simp [filterOf, Filter.standard])
  have hFollowed : ∀ link ∈ spaced.links, link.Followed := by
    simp [spaced, links, WrittenFilter.links, argumentLinks, Link.Followed]
  obtain ⟨hCompiled, hComponents⟩ :=
    @compile_text (Registry.findFilter [Extension.standard]) filterOf spaced hFound
  exact ⟨by decide, hCompiled, hComponents hFollowed⟩

end WrittenChain

end TextTemplate
