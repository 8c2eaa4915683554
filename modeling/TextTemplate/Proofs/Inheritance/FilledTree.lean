import TextTemplate.Proofs.Inheritance.Agreement
import TextTemplate.Proofs.Render.Halting

/-!
# Rendering a filled tree

While the blocks of derived templates wait, a root template renders to what its filled
tree renders to when none wait. The proof is an induction over the tree with `Agrees` as
its invariant, where the names of a tree are those of its blocks. A block that takes
what waits for it leads out of the tree, to a body without blocks; that such a body
renders alike in both contexts is the same theorem once more, with nothing to put in.

## Main results

* `renderAction_bodyWithSuper` — what a body that mentions `block.super` is filled
  in as.
* `agrees_renderNodes` — the induction over trees.
* `agrees_of_root` — a root template agrees with its filled tree.
-/

namespace TextTemplate

variable {σ : Type}

/-! ## Parts of a tree at the root -/

@[simp] theorem blockNames_append (first second : List Node) :
    blockNames (first ++ second) = blockNames first ++ blockNames second :=
  List.filterMap_append

theorem blockNames_cons_of_none {part : Node} (h : part.blockName? = none)
    (parts : List Node) :
    blockNames (part :: parts) = blockNames parts :=
  List.filterMap_cons_none h

namespace Root

variable {part : Node} {parts first second : List Node}

theorem tail (h : Root (part :: parts)) : Root parts where
  alone := fun other hOther => h.alone other (List.mem_cons_of_mem part hOther)
  once := fun other hOther => h.once other (List.mem_cons_of_mem part hOther)
  distinct := by
    have hDistinct := h.distinct
    cases hName : part.blockName? with
    | none => rwa [blockNames_cons_of_none hName] at hDistinct
    | some name =>
        rw [blockNames, List.filterMap_cons_some hName] at hDistinct
        exact (List.nodup_cons.mp hDistinct).2

theorem left (h : Root (first ++ second)) : Root first where
  alone := fun part hPart => h.alone part (List.mem_append_left second hPart)
  once := fun part hPart => h.once part (List.mem_append_left second hPart)
  distinct := (List.nodup_append.mp (blockNames_append first second ▸ h.distinct)).1

theorem right (h : Root (first ++ second)) : Root second where
  alone := fun part hPart => h.alone part (List.mem_append_right first hPart)
  once := fun part hPart => h.once part (List.mem_append_right first hPart)
  distinct := (List.nodup_append.mp (blockNames_append first second ▸ h.distinct)).2.1

/-- No block of one part has the name of a block of another. -/
theorem apart (h : Root (first ++ second)) :
    ∀ name ∈ blockNames first, name ∉ blockNames second := by
  intro name hFirst hSecond
  have hDistinct :=
    (List.nodup_append.mp (blockNames_append first second ▸ h.distinct)).2.2
  exact hDistinct name hFirst name hSecond rfl

end Root

/-- A tree without blocks is fit for the root as soon as it leads nowhere. -/
theorem Plain.root {nodes : List Node} (h : Plain (Node.partsOf nodes)) :
    Root (Node.partsOf nodes) where
  alone := h.1
  once := by
    intro part hPart
    cases part with
    | loop names source condition body empty =>
        have hBody : Node.partsOf body ⊆ Node.partsOf nodes := by
          intro inner hInner
          exact Node.partsOf_subset nodes hPart
            (List.mem_cons_of_mem _ (List.mem_append_left _ hInner))
        have hNone : blockNames (Node.partsOf body) = [] := by
          refine List.eq_nil_iff_forall_not_mem.mpr fun name hName => ?_
          obtain ⟨block, hBlock, hIs⟩ := List.mem_filterMap.mp hName
          have hAll : name ∈ blockNames (Node.partsOf nodes) :=
            List.mem_filterMap.mpr ⟨block, hBody hBlock, hIs⟩
          rw [h.2] at hAll
          cases hAll
        rw [Node.repeatsBlock, hNone]
        rfl
    | _ => rfl
  distinct := by
    rw [h.2]
    exact List.nodup_nil

namespace Environment

open Render

variable (env : Environment σ)

/-! ## Bodies with what they replace -/

theorem renderNodes_singleton (deeper : List Node → Render σ String) (node : Node) :
    env.renderNodes deeper [node] = env.renderNode deeper node := by
  funext context
  apply ext_run
  · simp only [renderNodes, result_bind, result_pure]
    cases (env.renderNode deeper node).result context with
    | error error => rfl
    | ok text => exact congrArg Except.ok (String.append_empty)
  · simp only [renderNodes, after_bind, result_pure, after_pure]
    cases (env.renderNode deeper node).result context <;> rfl

theorem render_singleton (node : Node) :
    env.render [node] = env.renderNode env.render node := by
  rw [env.render_eq_renderNodes, renderNodes_singleton]

/-- Nodes in two parts are rendered one part after the other. -/
theorem renderNodes_append (deeper : List Node → Render σ String)
    (first second : List Node) :
    env.renderNodes deeper (first ++ second) = (do
      let text ← env.renderNodes deeper first
      return text ++ (← env.renderNodes deeper second)) := by
  induction first with
  | nil =>
      have hEmpty : (fun text => "" ++ text) = (id : String → String) :=
        funext fun _ => String.empty_append
      simp [renderNodes, hEmpty]
  | cons node rest ih =>
      have hTexts : ∀ before between : String,
          (fun text => before ++ (between ++ text)) = fun text => before ++
            between ++ text :=
        fun before between => funext fun text => String.append_assoc.symm
      simp [renderNodes, ih, hTexts]

private theorem renderAction_ofExcept (deeper : List Node → Render σ String)
    (outcome : Except Error String) :
    env.renderAction deeper (.ofExcept outcome) = Render.ofExcept outcome := by
  cases outcome <;> rfl

/-- An outcome that is handed on unchanged. -/
private theorem outcome_bind_ofExcept (computation : Render σ String) :
    (computation.outcome >>= Render.ofExcept) = computation := by
  funext context
  apply ext_run
  · simp
  · simp

/-- A body that mentions what it replaces is filled in as the text of that, and then the
body in a scope with this text. -/
theorem renderAction_bodyWithSuper (deeper : List Node → Render σ String)
    (replaced body : List Node) :
    env.renderAction deeper (bodyWithSuper replaced body) = (do
      let text ← env.renderNodes deeper replaced
      env.within (superScope text) (env.renderNodes deeper body)) := by
  have hBody : env.renderAction deeper (.nodes body .ofExcept) =
      env.renderNodes deeper body := by
    simp only [renderAction, renderAction_ofExcept]
    exact outcome_bind_ofExcept _
  have hWithin : ∀ text, env.renderAction deeper
      (.within (superScope text) (.nodes body .ofExcept) .ofExcept) =
        env.within (superScope text) (env.renderNodes deeper body) := by
    intro text
    rw [renderAction, hBody]
    simp only [renderAction_ofExcept]
    exact outcome_bind_ofExcept _
  funext context
  rw [bodyWithSuper, renderAction]
  apply ext_run
  · simp only [result_bind, result_outcome, after_outcome]
    cases (env.renderNodes deeper replaced).result context with
    | error error => rfl
    | ok text =>
        show (env.renderAction deeper (.within (superScope text) _ _)).result _ = _
        rw [hWithin]
  · simp only [after_bind, result_outcome, after_outcome]
    cases (env.renderNodes deeper replaced).result context with
    | error error => rfl
    | ok text =>
        show (env.renderAction deeper (.within (superScope text) _ _)).after _ = _
        rw [hWithin]

/-- How a block is rendered that another one fills. -/
private theorem renderNodes_filledBody (deeper : List Node → Render σ String)
    (own : List Node) (replacement : Block Node) :
    env.renderNodes deeper (filledBody own (some replacement)) =
      if replacement.usesSuper then do
        let text ← env.renderNodes deeper own
        env.within (superScope text) (env.renderNodes deeper replacement.body)
      else env.renderNodes deeper replacement.body := by
  rw [filledBody]
  split
  · rw [renderNodes_singleton]
    exact env.renderAction_bodyWithSuper deeper own replacement.body
  · rfl

/-- What a block with a mention of it replaces is rendered aside. -/
theorem renderReplacement_of_usesSuper {replacement : Block Node}
    (h : replacement.usesSuper = true) (body rendered : Render σ String) :
    env.renderReplacement replacement body rendered = (do
      let text ← aside body
      env.within (superScope text) rendered) := by
  funext context
  rw [renderReplacement, if_pos h]
  apply ext_run
  · simp [result_aside, after_aside]
  · simp [result_aside, after_aside]

/-! ## Tags -/

section Tags

variable {env} {find : String → Option (Block Node)} {names : List String}

private theorem agrees_resolve (operand : Operand) :
    Agrees env.maxDepth find [] (env.resolve operand) (env.resolve operand) :=
  .observe (env.after_resolve operand) (env.after_resolve operand)
    fun waits idles hAlike => by
    rw [result_resolve, result_resolve, operand.resolve_eq_of_alike hAlike]

private theorem agrees_test (condition : Option Condition) :
    Agrees env.maxDepth find [] (env.test condition) (env.test condition) :=
  .observe (env.after_test condition) (env.after_test condition)
    fun waits idles hAlike => by
    rw [result_test, result_test]
    cases condition with
    | none => rfl
    | some condition => exact condition.evaluate_eq_of_alike hAlike env.maxRange

private theorem agrees_renderNow (format : Option Variable) :
    Agrees env.maxDepth find [] (env.renderNow format) (env.renderNow format) := by
  have hPrint : ∀ text (first second : Context σ),
      (env.printTime text).result first = (env.printTime text).result second := by
    intro text first second
    unfold printTime
    split <;> rfl
  refine .observe (env.after_renderNow format) (env.after_renderNow format)
    fun waits idles hAlike => ?_
  cases format with
  | none => exact hPrint standardTimeFormat waits idles
  | some format =>
      simp only [renderNow, result_bind, result_scopes, after_scopes,
        format.resolve_eq_of_alike hAlike]
      split
      · exact hPrint _ waits idles
      · rfl

private theorem agrees_acceptedItems (loopNames : List String)
    (condition : Option Condition) (items : List Value) :
    Agrees env.maxDepth find [] (env.acceptedItems loopNames condition items)
      (env.acceptedItems loopNames condition items) := by
  cases condition with
  | none => exact .pure items
  | some condition =>
      refine .select (fun item => ?_) [] items
      exact (Agrees.ofExcept _).then_bind
        fun scope => (agrees_test (some condition)).within scope

/-- The body of a loop takes no block, since it is rendered any number of times. What is
rendered in its place may take some. -/
private theorem agrees_renderLoop (loopNames : List String) (source : Operand)
    (condition : Option Condition) {body body' empty empty' : Render σ String}
    (hBody : Agrees env.maxDepth find [] body body')
    (hEmpty : Agrees env.maxDepth find names empty empty') :
    Agrees env.maxDepth find names
      (env.renderLoop loopNames source condition body empty)
      (env.renderLoop loopNames source condition body' empty') := by
  refine (agrees_resolve source).then_bind fun value => ?_
  refine (agrees_acceptedItems loopNames condition _).then_bind fun items => ?_
  unfold renderItems
  split
  · exact hEmpty.within Mapping.empty
  · refine (Agrees.joinTexts (fun item => ?_) items.zipIdx "").mono
      (List.nil_subset names)
    refine (Agrees.ofExcept _).then_bind fun scope => ?_
    exact (hBody.within scope).within _

private theorem agrees_renderFiltered (chain : FilterChain)
    {body body' : Render σ String} (h : Agrees env.maxDepth find names body body') :
    Agrees env.maxDepth find names (env.renderFiltered chain body)
      (env.renderFiltered chain body') := by
  have hChain : ∀ text, Agrees env.maxDepth find []
      (env.within (Mapping.singleton Tag.regionName (.string text)) do
        return (← Render.ofExcept (chain.resolve (← Render.scopes))).print :
          Render σ String)
      (env.within (Mapping.singleton Tag.regionName (.string text)) do
        return (← Render.ofExcept (chain.resolve (← Render.scopes))).print) := by
    intro text
    refine Agrees.within (.observe ?_ ?_ fun waits idles hAlike => ?_) _
    · simp
    · simp
    · simp only [result_bind, result_scopes, after_scopes, result_ofExcept,
        chain.resolve_eq_of_alike hAlike]
      rfl
  exact (h.bind hChain fun _ _ => List.not_mem_nil).mono (by simp)

/-- A block that replaces another one, where the text of what it replaces and then the
block itself agree. -/
private theorem agrees_renderReplacement {replacement : Block Node} {name : String}
    {body body' rendered rendered' : Render σ String}
    (hBody : Agrees env.maxDepth find names body body')
    (hRendered : Agrees env.maxDepth find [name] rendered rendered')
    (hName : name ∉ names) :
    Agrees env.maxDepth find (name :: names)
      (env.renderReplacement replacement body rendered)
      (if replacement.usesSuper then do
        let text ← body'
        env.within (superScope text) rendered'
      else rendered') := by
  split
  · rename_i hSuper
    rw [env.renderReplacement_of_usesSuper hSuper]
    have hApart : ∀ other ∈ names, other ∉ [name] := by
      intro other hOther hMem
      rw [List.mem_singleton] at hMem
      exact hName (hMem ▸ hOther)
    refine (hBody.aside.bind
      (fun text => hRendered.within (superScope text)) hApart).mono ?_
    intro other hOther
    simpa [or_comm] using hOther
  · rename_i hSuper
    rw [renderReplacement, if_neg hSuper]
    exact hRendered.within_empty.mono (by simp)

end Tags

/-! ## Trees -/

section Trees

-- The recursion hands the hypothesis on, which the linter does not see.
set_option linter.unusedSectionVars false

variable {env} {find : String → Option (Block Node)}

/-- A block that has been taken is rendered as its body, since nothing waits for its
name any more. -/
private theorem agrees_render_taken {replacement : Block Node}
    (hTaken : find replacement.name = none)
    (hBody : Agrees env.maxDepth find [] (env.renderNodes env.render replacement.body)
      (env.renderNodes env.render replacement.body)) :
    Agrees env.maxDepth find [replacement.name] (env.render [.block replacement])
      (env.renderNodes env.render replacement.body) := by
  obtain ⟨name, usesSuper, body⟩ := replacement
  rw [render_singleton, renderNode, renderBlock]
  refine Agrees.take ?_
  rw [hTaken]
  exact (hBody.congr fun _ hName => absurd hName List.not_mem_nil).mono
    (List.nil_subset _)

variable (h : ∀ name replacement, find name = some replacement →
  replacement.name = name ∧
    Agrees env.maxDepth find [] (env.renderNodes env.render replacement.body)
      (env.renderNodes env.render replacement.body))

include h

mutual

private theorem agrees_renderNode (node : Node) (hRoot : Root node.parts) :
    Agrees env.maxDepth find (blockNames node.parts) (env.renderNode env.render node)
      (env.renderNode env.render (node.fill find)) := by
  cases node with
  | text contents => exact .pure contents
  | output operand => exact (agrees_resolve operand).then_bind fun value => .pure _
  | loop names source condition body empty =>
      have hNone : blockNames (Node.partsOf body) = [] := by
        have hOnce := hRoot.once _ List.mem_cons_self
        simpa [Node.repeatsBlock] using hOnce
      have hBody := agrees_renderNodes body hRoot.tail.left
      have hEmpty := agrees_renderNodes empty hRoot.tail.right
      rw [hNone] at hBody
      refine (agrees_renderLoop names source condition hBody hEmpty).mono ?_
      rw [Node.parts, blockNames_cons_of_none rfl, blockNames_append, hNone]
      exact List.Subset.refl _
  | choice branches => exact agrees_renderBranches branches hRoot.tail
  | block block => exact agrees_renderBlock block hRoot
  | inherit parent blocks =>
      exact absurd (hRoot.alone _ List.mem_cons_self) Bool.noConfusion
  | embed template bindings =>
      exact absurd (hRoot.alone _ List.mem_cons_self) Bool.noConfusion
  | filtered chain body =>
      exact agrees_renderFiltered chain (agrees_renderNodes body hRoot.tail)
  | now format => exact agrees_renderNow format
  | custom action => exact absurd (hRoot.alone _ List.mem_cons_self) Bool.noConfusion

/-- A block takes what waits for its name. The blocks in its own body go on waiting for
theirs, which are other names. -/
private theorem agrees_renderBlock (block : Block Node)
    (hRoot : Root (Block.parts block)) :
    Agrees env.maxDepth find (blockNames (Block.parts block))
      (env.renderBlock env.render block)
      (env.renderBlock env.render (Block.fill find block)) := by
  obtain ⟨name, usesSuper, body⟩ := block
  have hNames : blockNames (Block.parts ⟨name, usesSuper, body⟩) =
      name :: blockNames (Node.partsOf body) := rfl
  have hFresh : name ∉ blockNames (Node.partsOf body) := by
    have hDistinct := hRoot.distinct
    rw [hNames] at hDistinct
    exact (List.nodup_cons.mp hDistinct).1
  have hOwn : Agrees env.maxDepth (without find name) (blockNames (Node.partsOf body))
      (env.renderNodes env.render body)
      (env.renderNodes env.render (Node.fillAll find body)) := by
    refine (agrees_renderNodes body hRoot.tail).congr fun other hOther => if_neg ?_
    rintro rfl
    exact hFresh hOther
  rw [hNames, renderBlock, Block.fill, renderBlock]
  refine Agrees.take (Agrees.take_idle ?_)
  cases hFind : find name with
  | none => exact hOwn.mono (List.subset_cons_self name _)
  | some replacement =>
      obtain ⟨rfl, hBody⟩ := h name replacement hFind
      have hTaken : Agrees env.maxDepth (without find replacement.name)
          [replacement.name]
          (env.render [.block replacement])
          (env.renderNodes env.render replacement.body) :=
        agrees_render_taken (if_pos rfl)
          (hBody.congr fun _ hName => absurd hName List.not_mem_nil)
      show Agrees _ _ _ _
        (env.renderNodes env.render
          (filledBody (Node.fillAll find body) (some replacement)))
      rw [renderNodes_filledBody]
      exact agrees_renderReplacement hOwn hTaken hFresh

theorem agrees_renderNodes (nodes : List Node) (hRoot : Root (Node.partsOf nodes)) :
    Agrees env.maxDepth find (blockNames (Node.partsOf nodes))
      (env.renderNodes env.render nodes)
      (env.renderNodes env.render (Node.fillAll find nodes)) := by
  cases nodes with
  | nil => exact .pure ""
  | cons node rest =>
      have hNode := agrees_renderNode node hRoot.left
      have hRest := agrees_renderNodes rest hRoot.right
      rw [Node.partsOf, blockNames_append]
      refine hNode.bind (fun text => ?_) hRoot.apart
      exact (hRest.bind (fun more => .pure _)
        fun _ _ => List.not_mem_nil).mono (by simp)

private theorem agrees_renderBranches (branches : List (Branch Node))
    (hRoot : Root (Branch.partsOf branches)) :
    Agrees env.maxDepth find (blockNames (Branch.partsOf branches))
      (env.renderBranches env.render branches)
      (env.renderBranches env.render (Branch.fillAll find branches)) := by
  cases branches with
  | nil => exact .pure ""
  | cons branch rest =>
      obtain ⟨condition, body⟩ := branch
      have hBody := agrees_renderNodes body hRoot.left
      have hRest := agrees_renderBranches rest hRoot.right
      rw [Branch.partsOf, blockNames_append]
      refine (agrees_test condition).then_bind fun answer => ?_
      cases answer with
      | true => exact (hBody.within Mapping.empty).mono (List.subset_append_left _ _)
      | false => exact hRest.mono (List.subset_append_right _ _)

end

end Trees

/-! ## Root templates -/

/-- A body without blocks that leads nowhere renders alike in both contexts. -/
private theorem agrees_of_plain {nodes : List Node}
    (hPlain : Plain (Node.partsOf nodes)) (find : String → Option (Block Node)) :
    Agrees env.maxDepth find [] (env.renderNodes env.render nodes)
      (env.renderNodes env.render nodes) := by
  have hNothing : ∀ name replacement, (none : Option (Block Node)) = some replacement →
      replacement.name = name ∧ Agrees env.maxDepth (fun _ => none) []
        (env.renderNodes env.render replacement.body)
        (env.renderNodes env.render replacement.body) := fun _ _ hFind => by cases hFind
  have hAgrees := agrees_renderNodes hNothing nodes hPlain.root
  rw [Node.fillAll_none, hPlain.2] at hAgrees
  exact hAgrees.congr fun _ hName => absurd hName List.not_mem_nil

/-- A root template renders, while blocks wait that are plain, to what its filled tree
renders to. -/
theorem agrees_of_root {nodes : List Node} (hRoot : Root (Node.partsOf nodes))
    {find : String → Option (Block Node)}
    (hFind : ∀ name replacement, find name = some replacement →
      replacement.name = name ∧ Plain (Node.partsOf replacement.body)) :
    Agrees env.maxDepth find (blockNames (Node.partsOf nodes)) (env.render nodes)
      (env.render (Node.fillAll find nodes)) := by
  rw [env.render_eq_renderNodes nodes,
    env.render_eq_renderNodes (Node.fillAll find nodes)]
  refine agrees_renderNodes (fun name replacement h => ?_) nodes hRoot
  obtain ⟨hName, hPlain⟩ := hFind name replacement h
  exact ⟨hName, env.agrees_of_plain hPlain find⟩

end Environment

end TextTemplate
