import TextTemplate.Proofs.Inheritance.FilledTree
import TextTemplate.Proofs.Render.Balance
import TextTemplate.Proofs.Render.Source
import TextTemplate.Proofs.Scope.Alike
import TextTemplate.Proofs.Token.Components
import TextTemplate.Proofs.Value.Paths

/-!
# Filtered regions

A filtered region is rendered as a chain: its text is bound to a name in a scope of its
own, and a chain that begins with this name is resolved there. So the filters see the
text, and their arguments see the binding as well. This module proves that the binding
cannot be told from outside as long as no argument is a path that begins with the name.
The filters are then applied to the text of the body, one after the other, with their
arguments as the scopes around the region give them.

The name is one that an application may use for data of its own. An argument that begins
with it leads into the text of the body, whatever the scopes bind.

## Main results

* `FilterChain.compile_behind` — a chain behind a name has the filters that its text has
  by itself.
* `Environment.renderFiltered_eq` — what a region renders to, for bodies of all kinds.
* `Environment.renderSource_region` — templates that consist of a filtered region.
-/

namespace TextTemplate

variable {σ : Type}

/-! ## Arguments and the binding -/

namespace Variable

/-- The name with which a path begins. -/
def start? (subject : Variable) : Option String :=
  match subject.kind with
  | .literal _ => none
  | .path segments => segments.head?

theorem resolve_path (source : String) (segments : List String) (scopes : Scopes) :
    resolve ⟨source, .path segments⟩ scopes = resolvePath scopes segments := rfl

/-- A scope that binds another name makes no difference. -/
private theorem resolve_singleton_of_ne {subject : Variable} {name : String}
    (h : subject.start? ≠ some name) (value : Value) (scopes : Scopes) :
    subject.resolve (Mapping.singleton name value :: scopes) =
      subject.resolve scopes := by
  obtain ⟨source, kind⟩ := subject
  cases kind with
  | literal value => rfl
  | path segments =>
      cases segments with
      | nil => rfl
      | cons first rest =>
          have hFirst : name ≠ first := fun hSame => h (congrArg some hSame.symm)
          have hGet : Scopes.get? (Mapping.singleton name value :: scopes) first =
              scopes.get? first := by
            rw [Scopes.get?_cons, Mapping.singleton, Mapping.get?_insert, if_neg hFirst,
              Mapping.get?_empty]
          rw [resolve_path, resolve_path, resolvePath, resolvePath, hGet]

/-- A path that begins with the name leads into the value, whatever outer scopes
bind. -/
private theorem resolve_singleton_self (source name : String) (rest : List String)
    {value : Value} (hValue : value.isNil = false) (scopes : Scopes) :
    resolve ⟨source, .path (name :: rest)⟩ (Mapping.singleton name value :: scopes) =
      descend value rest := by
  have hGet : Scopes.get? (Mapping.singleton name value :: scopes) name =
      some value := by
    rw [Scopes.get?_cons, Mapping.singleton, Mapping.get?_insert, if_pos rfl]
    simp [hValue]
  rw [resolve_path, resolvePath, hGet]

end Variable

namespace FilterChain

/-- The filters that a text between bars stands for. -/
def filtersOf (find : FilterFinder) (text : String) :
    Except Error (List AppliedFilter) :=
  ((splitPhrases '|' text).map Text.trim).mapM (compileFilter find)

/-- A chain behind a name and a bar has the filters that its text has by itself, unless
the text starts with a word of marks, which would go on with the name. -/
theorem compile_behind {find : FilterFinder} {name text : String} (hName : name ≠ "")
    (hTrim : Text.trim name = name)
    (hPlain : ∀ c ∈ name.toList, c ≠ '|' ∧ isQuote c = false)
    (hMark : endsInMark name.toList = false)
    (hApart : (words '|' text.toList).head?.any isMarkRun = false) :
    compile find (name ++ "|" ++ text) =
      (filtersOf find text).map fun filters => ⟨name ++ "|" ++ text,
        Variable.ofString name, filters⟩ := by
  have hSplit : splitPhrases '|' (name ++ "|" ++ text) =
      name :: splitPhrases '|' text :=
    (splitPhrases_cons_iff (by decide) hName hPlain hMark).mpr ⟨rfl, hApart⟩
  unfold compile
  rw [hSplit, List.map_cons, hTrim]
  show (filtersOf find text >>= fun filters => pure _) = _
  cases filtersOf find text <;> rfl

/-- The chain of a filtered region begins with a path. -/
private theorem compile_region {find : FilterFinder} {text : String}
    (hApart : (words '|' text.toList).head?.any isMarkRun = false) :
    compile find (Tag.regionName ++ "|" ++ text) =
      (filtersOf find text).map fun filters =>
        ⟨Tag.regionName ++ "|" ++ text, ⟨Tag.regionName, .path [Tag.regionName]⟩,
          filters⟩ := by
  have hBase : Variable.ofString Tag.regionName =
      ⟨Tag.regionName, .path [Tag.regionName]⟩ :=
    Variable.ofString_name rfl (by decide)
  rw [compile_behind (by decide) (by decide) (by simp [Tag.regionName, isQuote])
    (by decide) hApart,
    hBase]

end FilterChain

/-- A template that is a filtered region parses to a single node, unless a filter
is unknown. -/
theorem Registry.parse_region {registry : Registry}
    (hRegion : registry.findTag "filter" = .ok Tag.readFiltered)
    {source contents chain : String} {queue : List Token} {closing : Token}
    {nodes : List Node} (hTokens : tokenize source = .block contents :: queue)
    (hComponents : (Token.block contents).components = ["filter", chain])
    (hApart : (words '|' chain.toList).head?.any isMarkRun = false)
    (hBody : registry.parseUntil (Token.isNamed ["endfilter"]) queue =
      .ok nodes [closing]) :
    registry.parse source = (FilterChain.filtersOf registry.findFilter chain).map
      fun filters =>
        [.filtered ⟨Tag.regionName ++ "|" ++ chain,
          ⟨Tag.regionName, .path [Tag.regionName]⟩, filters⟩ nodes] := by
  have hRun := Tag.run_readFiltered_of_body registry.findFilter hComponents hBody
  rw [FilterChain.compile_region hApart] at hRun
  cases hFilters : FilterChain.filtersOf registry.findFilter chain with
  | error error =>
      rw [hFilters] at hRun
      exact parse_of_tag (.error error) [] hTokens hComponents hRegion hRun
  | ok filters =>
      rw [hFilters] at hRun
      exact parse_of_tag (.ok (.filtered _ nodes)) [] hTokens hComponents hRegion hRun

/-! ## Rendering -/

namespace Render

/-- A text through filters. The arguments are resolved in the open scopes and, in front
of them, in those that `inner` gives for the text. -/
def through (filters : List AppliedFilter) (inner : String → Scopes)
    (body : Render σ String) :
    Render σ String := do
  let text ← body
  let value ← Render.ofExcept
    (FilterChain.applyAll (inner text ++ (← Render.scopes)) (.string text) filters)
  return value.print

/-- Without an argument that begins with it, the name of a text can as well be
unbound. -/
private theorem through_singleton {filters : List AppliedFilter} {name : String}
    (h : ∀ applied ∈ filters, ∀ argument ∈ applied.arguments,
      argument.start? ≠ some name) (body : Render σ String) :
    through filters (fun text => [Mapping.singleton name (.string text)]) body =
      through filters (fun _ => []) body := by
  have hAll : ∀ text scopes,
      FilterChain.applyAll ([Mapping.singleton name (.string text)] ++ scopes)
      (.string text) filters = FilterChain.applyAll scopes (.string text) filters :=
    fun text scopes => FilterChain.applyAll_congr
      (fun applied hApplied argument hArgument =>
        Variable.resolve_singleton_of_ne
          (h applied hApplied argument hArgument) _ scopes) _
  simp only [through, hAll, List.nil_append]

end Render

namespace Environment

open Render

variable {env : Environment σ}

/-- A region gives the text of its body through the filters, and fails with the error of
the body or that of a filter. The arguments see the binding of the text. -/
theorem renderFiltered_eq (source : String) (filters : List AppliedFilter)
    {body : Render σ String} (hBody : body.Keeps False) {context : Context σ}
    (hDepth : context.scopes.length ≤ env.maxDepth) :
    env.renderFiltered ⟨source, ⟨Tag.regionName, .path [Tag.regionName]⟩,
      filters⟩ body context =
      through filters (fun text => [Mapping.singleton Tag.regionName (.string text)])
        body context := by
  have hLeft : ¬ env.maxDepth < (body.after context).scopes.length := by
    rw [(hBody context).depth]
    omega
  have hBase : ∀ text scopes, Variable.resolve ⟨Tag.regionName, .path [Tag.regionName]⟩
      (Mapping.singleton Tag.regionName (.string text) :: scopes) = .string text :=
    fun text scopes => Variable.resolve_singleton_self _ _ [] rfl scopes
  apply ext_run
  · simp only [renderFiltered, through, within, result_bind, result_within,
      if_neg hLeft, result_scopes, after_scopes, result_ofExcept, FilterChain.resolve,
      Context.push, hBase, result_pure, List.singleton_append]
  · simp only [renderFiltered, through, within, after_bind, result_scopes, after_scopes,
      after_within, if_neg hLeft, result_ofExcept, after_ofExcept, after_pure]
    -- Whether the filters fail or not, the context is the one that the body leaves.
    cases body.result context with
    | error error => rfl
    | ok text => dsimp only; split <;> split <;> rfl

/-- A region of nodes in a template. -/
theorem render_region (source : String) (filters : List AppliedFilter)
    (nodes : List Node) {context : Context σ}
    (hDepth : context.scopes.length ≤ env.maxDepth) :
    env.render [.filtered ⟨source, ⟨Tag.regionName, .path [Tag.regionName]⟩,
      filters⟩ nodes] context =
      through filters (fun text => [Mapping.singleton Tag.regionName (.string text)])
        (env.render nodes) context := by
  rw [render_singleton, renderNode, ← render_eq_renderNodes,
    renderFiltered_eq source filters (env.keeps_render nodes).loosen hDepth]

/-- A template that is a filtered region, with filters `chain` around a body that
parses. An unknown filter is the error of the template. Otherwise the template gives the
text of the body through the filters, one after the other, and fails with the error of
the body or of the first filter that fails. The arguments of the filters are resolved in
the scopes around the region if none of them is a path that begins with the name that
the text is bound to. In general they are resolved in one scope more, which binds this
name to the text. -/
theorem renderSource_region (env : Environment σ)
    (hRegion : env.registry.findTag "filter" = .ok Tag.readFiltered)
    {source contents chain : String} {body : List Token} {closing : Token}
    {nodes : List Node}
    (hTokens : tokenize source = .block contents :: (body ++ [closing]))
    (hComponents : (Token.block contents).components = ["filter", chain])
    (hApart : (words '|' chain.toList).head?.any isMarkRun = false)
    (hBody : env.registry.parseUntil (Token.isNamed ["endfilter"]) (body ++ [closing]) =
      .ok nodes [closing]) {context : Context σ}
    (hDepth : context.scopes.length ≤ env.maxDepth) :
    match FilterChain.filtersOf env.registry.findFilter chain with
    | .error error => env.renderSource source context = .error error context
    | .ok filters =>
      ((∀ applied ∈ filters, ∀ argument ∈ applied.arguments,
        argument.start? ≠ some "filter_value") →
        env.renderSource source context =
          through filters (fun _ => []) (env.render nodes) context) ∧
      env.renderSource source context =
        through filters (fun text => [Mapping.singleton "filter_value" (.string text)])
          (env.render nodes) context := by
  have hParse := Registry.parse_region hRegion hTokens hComponents hApart hBody
  cases hFilters : FilterChain.filtersOf env.registry.findFilter chain with
  | error error =>
      rw [hFilters] at hParse
      exact renderSource_of_parse_error hParse context
  | ok filters =>
      rw [hFilters] at hParse
      have hRender : env.renderSource source context =
          through filters (fun text =>
            [Mapping.singleton "filter_value" (.string text)]) (env.render nodes)
            context :=
        (renderSource_of_parse hParse context).trans
          (render_region _ filters nodes hDepth)
      refine ⟨fun hFresh => ?_, hRender⟩
      rw [hRender, through_singleton hFresh]

/-- The unit to indent by is looked up around the region. -/
theorem renderSource_region_of_unit :
    let env : Environment Unit := { clock := ⟨2024, 2, 29, 12, 0, 0, 0, 0⟩ }
    let context : Context Unit :=
      ⟨[Mapping.singleton "unit" (.string "-")], none, ⟨Mapping.empty, ()⟩⟩
    env.renderSource "\x7b% filter indent:1,unit,true %\x7da\x7b% endfilter %\x7d"
      context = .ok "-a" context := by
  intro env context
  have hStandard : env.registry.HasStandardTags := fun name => rfl
  have hTokens :
      tokenize "\x7b% filter indent:1,unit,true %\x7da\x7b% endfilter %\x7d" =
      .block "filter indent:1,unit,true" :: ([.text "a"] ++ [.block "endfilter"]) := by
        cbv
  have hComponents : (Token.block "filter indent:1,unit,true").components =
      ["filter", "indent:1,unit,true"] := by decide
  have hBody : env.registry.parseUntil (Token.isNamed ["endfilter"])
      ([.text "a"] ++ [.block "endfilter"]) =
      .ok [.text "a"] [.block "endfilter"] := rfl
  have hDepth : context.scopes.length ≤ env.maxDepth := by decide
  have hText := env.renderSource_region
    (hStandard.findTag_eq (by simp [Registry.standardTags])) hTokens
    hComponents (by decide) hBody hDepth
  have hUnit : Variable.ofString "unit" = ⟨"unit", .path ["unit"]⟩ :=
    Variable.ofString_name rfl (by decide)
  have hFilters : FilterChain.filtersOf env.registry.findFilter "indent:1,unit,true" =
      .ok [⟨.withArguments Filter.indent,
        [⟨"1", .literal (.int 1)⟩, ⟨"unit", .path ["unit"]⟩,
          ⟨"true", .literal (.bool true)⟩]⟩] := by
    have hPieces : (splitPhrases '|' "indent:1,unit,true").map Text.trim =
        ["indent:1,unit,true"] := by decide
    rw [FilterChain.filtersOf, hPieces, ← hUnit]
    rfl
  rw [hFilters] at hText
  rw [hText.1 (by simp [Variable.start?])]
  cbv

/-- A unit that the scopes bind to the name of the text is not found: the text is
indented by itself. -/
theorem renderSource_region_ne_of_bound :
    let env : Environment Unit := { clock := ⟨2024, 2, 29, 12, 0, 0, 0, 0⟩ }
    let context : Context Unit :=
      ⟨[Mapping.singleton "filter_value" (.string "-")], none, ⟨Mapping.empty, ()⟩⟩
    (Token.block "filter indent:1,filter_value,true").components =
      ["filter", "indent:1,filter_value,true"] ∧
      ∃ filters, FilterChain.filtersOf env.registry.findFilter
        "indent:1,filter_value,true" = .ok filters ∧
        through filters (fun _ => []) (env.render [.text "a"]) context =
          .ok "-a" context ∧
        env.renderSource
          "\x7b% filter indent:1,filter_value,true %\x7da\x7b% endfilter %\x7d"
          context = .ok "aa" context := by
  intro env context
  have hStandard : env.registry.HasStandardTags := fun name => rfl
  have hTokens :
      tokenize "\x7b% filter indent:1,filter_value,true %\x7da\x7b% endfilter %\x7d" =
      [.block "filter indent:1,filter_value,true", .text "a", .block "endfilter"] := by
        cbv
  have hComponents : (Token.block "filter indent:1,filter_value,true").components =
      ["filter", "indent:1,filter_value,true"] := by decide
  have hBody : env.registry.parseUntil (Token.isNamed ["endfilter"]) [.text "a",
      .block "endfilter"] = .ok [.text "a"] [.block "endfilter"] := rfl
  have hDepth : context.scopes.length ≤ env.maxDepth := by decide
  have hUnit : Variable.ofString Tag.regionName =
      ⟨Tag.regionName, .path [Tag.regionName]⟩ :=
    Variable.ofString_name rfl (by decide)
  let filters : List AppliedFilter := [⟨.withArguments Filter.indent,
    [⟨"1", .literal (.int 1)⟩, ⟨Tag.regionName, .path [Tag.regionName]⟩,
      ⟨"true", .literal (.bool true)⟩]⟩]
  have hFilters : FilterChain.filtersOf env.registry.findFilter
      "indent:1,filter_value,true" = .ok filters := by
    have hPieces : (splitPhrases '|' "indent:1,filter_value,true").map Text.trim =
        ["indent:1,filter_value,true"] := by decide
    simp only [filters]
    rw [FilterChain.filtersOf, hPieces, ← hUnit]
    rfl
  have hParse := Registry.parse_region
    (hStandard.findTag_eq (by simp [Registry.standardTags])) hTokens
    hComponents (by decide) hBody
  rw [hFilters] at hParse
  refine ⟨hComponents, filters, hFilters, by cbv, ?_⟩
  rw [renderSource_of_parse hParse, render_region _ _ _ hDepth]
  cbv

end Environment

end TextTemplate
