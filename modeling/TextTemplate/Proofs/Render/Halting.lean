import TextTemplate.Proofs.Render.Balance
import TextTemplate.Proofs.Render.Machine

/-!
# Renderings end

A rendering may be led from template to template without end, as far as the templates
are concerned: they may name each other in a circle, and a loader may make up a new
template for every name. This module proves that the machine of
`TextTemplate.Proofs.Render.Machine` halts all the same, with what `Environment.render`
gives, and that at no step more scopes are open than one more than the limit.

The measure has two parts. A step that enters nodes found on the way is taken only in a
scope that was opened for them, so it leaves fewer scopes to be opened: that is the
layer of `renderLayered` that is used up. All other steps go down the tree, which is the
recursion of `renderNodes`. `Carries` says that a plan does what a computation does; it
is proved for trees by recursion on the tree, given that it holds with one scope more
for what leads out of the tree, and then for all layers by induction.

## Main results

* `carries_renderNodes` — one layer: the plan of a tree does what rendering the
  tree does.
* `render_halts` — every rendering ends, and what the limit says about scopes holds at
  every step.
* `render_eq_renderNodes` — the layers cannot be seen: rendering satisfies the equation
  of an unbounded recursion.
-/

namespace TextTemplate

variable {σ α β : Type}

namespace Environment

variable (env : Environment σ)

/-! ## Steps that respect a bound -/

/-- Some number of steps leads from a machine to another, and up to the last step at
most `bound` scopes are open. -/
inductive Leads (bound : Nat) : Machine σ → Machine σ → Prop where
  | refl (machine : Machine σ) : Leads bound machine machine
  | step {first last : Machine σ} (hDepth : first.depth ≤ bound)
      (hRest : Leads bound (env.step first) last) : Leads bound first last

variable {env} {bound : Nat}

/-- A halted machine stays as it is. -/
theorem run_halt (context : Context σ) (outcome : Except Error String) (steps : Nat) :
    env.run steps ⟨context, .halt outcome⟩ = ⟨context, .halt outcome⟩ := by
  induction steps with
  | zero => rfl
  | succ steps ih => exact ih

private theorem run_add (first second : Nat) (machine : Machine σ) :
    env.run (first + second) machine = env.run second (env.run first machine) := by
  induction first generalizing machine with
  | zero => rw [Nat.zero_add]; rfl
  | succ first ih =>
      rw [Nat.succ_add]
      exact ih (env.step machine)

namespace Leads

theorem trans {first second third : Machine σ} (h₁ : env.Leads bound first second)
    (h₂ : env.Leads bound second third) : env.Leads bound first third := by
  induction h₁ with
  | refl => exact h₂
  | step hDepth _ ih => exact .step hDepth (ih h₂)

/-- One step. -/
theorem single {first last : Machine σ} (hDepth : first.depth ≤ bound)
    (hStep : env.step first = last) : env.Leads bound first last := by
  subst hStep
  exact .step hDepth (.refl _)

theorem exists_run {first last : Machine σ} (h : env.Leads bound first last) :
    ∃ steps, env.run steps first = last := by
  induction h with
  | refl machine => exact ⟨0, rfl⟩
  | step _ _ ih =>
      obtain ⟨steps, hSteps⟩ := ih
      exact ⟨steps + 1, hSteps⟩

/-- On the way to a halted machine, and behind it, the bound holds after any number
of steps. -/
theorem depth_run_le {first last : Machine σ} (h : env.Leads bound first last)
    {outcome : Except Error String} (hHalted : last.errand = .halt outcome)
    (hLast : last.depth ≤ bound) (steps : Nat) :
    (env.run steps first).depth ≤ bound := by
  induction h generalizing steps with
  | refl machine =>
      obtain ⟨context, errand⟩ := machine
      subst hHalted
      rw [run_halt]
      exact hLast
  | step hDepth _ ih =>
      cases steps with
      | zero => exact hDepth
      | succ steps => exact ih hHalted hLast steps

/-- Two halted machines that one machine leads to are the same, since there is one step
at a time. -/
theorem halt_unique {first : Machine σ} {context₁ context₂ : Context σ}
    {outcome₁ outcome₂ : Except Error String}
    (h₁ : env.Leads bound first ⟨context₁, .halt outcome₁⟩)
    (h₂ : env.Leads bound first ⟨context₂, .halt outcome₂⟩) :
    context₁ = context₂ ∧ outcome₁ = outcome₂ := by
  obtain ⟨steps₁, hSteps₁⟩ := h₁.exists_run
  obtain ⟨steps₂, hSteps₂⟩ := h₂.exists_run
  have hSame : env.run steps₂ (env.run steps₁ first) =
      env.run steps₁ (env.run steps₂ first) := by
    rw [← run_add, ← run_add, Nat.add_comm]
  rw [hSteps₁, hSteps₂, run_halt, run_halt] at hSame
  simpa using hSame

end Leads

/-! ## Plans that do what computations do -/

variable (env) (bound) in
/-- In every context with at least `lower` and at most `upper` scopes, the plan
leads to the result of the computation and to the context that it leaves, which has
as many scopes. -/
def Carries (lower upper : Nat) (computation : Render σ α) (plan : Plan σ α) : Prop :=
  ∀ context : Context σ, lower ≤ context.scopes.length → context.scopes.length ≤ upper →
    (computation.after context).scopes.length = context.scopes.length ∧
      ∀ next, env.Leads bound ⟨context, plan next⟩
        ⟨computation.after context, next (computation.result context)⟩

namespace Carries

variable {lower upper : Nat}

theorem mono {lower' upper' : Nat} {computation : Render σ α} {plan : Plan σ α}
    (h : env.Carries bound lower upper computation plan) (hLower : lower ≤ lower')
    (hUpper : upper' ≤ upper) : env.Carries bound lower' upper' computation plan :=
  fun context hLow hHigh => h context (Nat.le_trans hLower hLow)
    (Nat.le_trans hHigh hUpper)

theorem pure (value : α) :
    env.Carries bound lower upper (Pure.pure value) (Pure.pure value) :=
  fun _ _ _ => ⟨rfl, fun _ => .refl _⟩

theorem bind {first : Render σ α} {next : α → Render σ β} {planFirst : Plan σ α}
    {planNext : α → Plan σ β} (hFirst : env.Carries bound lower upper first planFirst)
    (hNext : ∀ value, env.Carries bound lower upper (next value) (planNext value)) :
    env.Carries bound lower upper (first >>= next) (planFirst >>= planNext) := by
  intro context hLow hHigh
  obtain ⟨hDepth, hLeads⟩ := hFirst context hLow hHigh
  rw [Render.after_bind, Render.result_bind]
  cases hResult : first.result context with
  | ok value =>
      obtain ⟨hDepth', hLeads'⟩ := hNext value (first.after context)
        (by rw [hDepth]; exact hLow) (by rw [hDepth]; exact hHigh)
      refine ⟨hDepth'.trans hDepth, fun rest => ?_⟩
      have hStart := hLeads (Plan.goOn planNext rest)
      rw [hResult] at hStart
      exact hStart.trans (hLeads' rest)
  | error error =>
      refine ⟨hDepth, fun rest => ?_⟩
      have hStart := hLeads (Plan.goOn planNext rest)
      rw [hResult] at hStart
      exact hStart

theorem outcome {computation : Render σ α} {plan : Plan σ α}
    (h : env.Carries bound lower upper computation plan) :
    env.Carries bound lower upper computation.outcome plan.outcome := by
  intro context hLow hHigh
  obtain ⟨hDepth, hLeads⟩ := h context hLow hHigh
  rw [Render.after_outcome, Render.result_outcome]
  exact ⟨hDepth, fun next => hLeads fun result => next (.ok result)⟩

theorem joinTexts {pieces : List (Render σ String × Plan σ String)}
    (h : ∀ piece ∈ pieces, env.Carries bound lower upper piece.1 piece.2)
    (text : String) :
    env.Carries bound lower upper (Render.joinTexts text (pieces.map Prod.fst))
      (Plan.joinTexts text (pieces.map Prod.snd)) := by
  induction pieces generalizing text with
  | nil => exact .pure text
  | cons first rest ih =>
      have hFirst := h first (by simp)
      have hRest : ∀ piece ∈ rest, env.Carries bound lower upper piece.1 piece.2 :=
        fun piece hPiece => h piece (by simp [hPiece])
      exact hFirst.bind fun more => ih hRest (text ++ more)

theorem select {accept : α → Render σ Bool} {planAccept : α → Plan σ Bool}
    (h : ∀ item, env.Carries bound lower upper (accept item) (planAccept item))
    (accepted items : List α) :
    env.Carries bound lower upper (Render.select accept accepted items)
      (Plan.select planAccept accepted items) := by
  induction items generalizing accepted with
  | nil => exact .pure accepted.reverse
  | cons item rest ih =>
      refine (h item).bind fun answer => ?_
      cases answer with
      | true => exact ih (item :: accepted)
      | false => exact ih accepted

/-! Every step is counted against the bound, so the primitives need it above the
contexts that they are asked about. -/

variable (hBound : upper ≤ bound)

include hBound

theorem observe {computation : Render σ α}
    (hAfter : ∀ context, computation.after context = context) :
    env.Carries bound lower upper computation (Plan.observe computation) := by
  intro context _ hHigh
  rw [hAfter context]
  exact ⟨rfl, fun next => .single (Nat.le_trans hHigh hBound) rfl⟩

theorem set (name : String) (value : Value) :
    env.Carries bound lower upper (Render.set name value) (Plan.set name value) := by
  intro context _ hHigh
  refine ⟨?_, fun next => .single (Nat.le_trans hHigh hBound) rfl⟩
  rw [Render.after_set]
  cases hScopes : context.scopes <;> rfl

theorem setOverrides (overrides : Option Overrides) :
    env.Carries bound lower upper (Render.setOverrides overrides)
      (Plan.setOverrides overrides) :=
  fun _ _ hHigh => ⟨rfl, fun _ => .single (Nat.le_trans hHigh hBound) rfl⟩

theorem takeOverride (name : String) :
    env.Carries bound lower upper (Render.takeOverride name)
      (Plan.takeOverride name) := by
  intro context _ hHigh
  have hDepth : context.scopes.length ≤ bound := Nat.le_trans hHigh hBound
  rw [Render.after_takeOverride, Render.result_takeOverride]
  exact ⟨rfl, fun next => .step hDepth (.step hDepth (.refl _))⟩

theorem load (name : String) :
    env.Carries bound lower upper (Render.ofSession (env.load name))
      (Plan.load name) := by
  intro context _ hHigh
  have hDepth : context.scopes.length ≤ bound := Nat.le_trans hHigh hBound
  unfold Render.after Render.result Render.ofSession
  cases hLoad : env.load name context.shelf with
  | ok template shelf =>
      exact ⟨rfl, fun next => .single hDepth (by simp only [step, Plan.load, hLoad])⟩
  | error error shelf =>
      exact ⟨rfl, fun next => .single hDepth (by simp only [step, Plan.load, hLoad])⟩

/-- Opening a scope leads to a context with one scope more, and only if as many are
allowed; so this is all that has to be known of the body. -/
theorem within {body : Render σ α} {plan : Plan σ α} (scope : Scope)
    (hLimit : env.maxDepth + 1 ≤ bound)
    (hBody : env.Carries bound (lower + 1) (env.maxDepth + 1) body plan) :
    env.Carries bound lower upper (env.within scope body) (Plan.within scope plan) := by
  intro context hLow hHigh
  have hDepth : context.scopes.length ≤ bound := Nat.le_trans hHigh hBound
  unfold Environment.within
  rw [Render.after_within, Render.result_within]
  by_cases hDeep : env.maxDepth < context.scopes.length
  · rw [if_pos hDeep, if_pos hDeep]
    exact ⟨rfl, fun next => .single hDepth
      (by simp only [step, Plan.within, if_pos hDeep])⟩
  · rw [if_neg hDeep, if_neg hDeep]
    have hPushed : (context.push scope).scopes.length = context.scopes.length + 1 := rfl
    obtain ⟨hSame, hLeads⟩ := hBody (context.push scope) (by omega) (by omega)
    refine ⟨?_, fun next => ?_⟩
    · simp only [Context.pop, List.length_tail]
      omega
    · have hEnter : env.step ⟨context, Plan.within scope plan next⟩ =
          ⟨context.push scope, plan fun outcome => .leave (next outcome)⟩ := by
        simp only [step, Plan.within, if_neg hDeep]
      refine (Leads.single hDepth hEnter).trans ((hLeads _).trans ?_)
      refine .single ?_ rfl
      simp only [Machine.depth]
      omega

end Carries

/-! ## Tags -/

section Tags

variable {lower upper : Nat} (hBound : upper ≤ bound)
  (hLimit : env.maxDepth + 1 ≤ bound)

include hBound

private theorem carries_loadNamed (name : Variable) :
    env.Carries bound lower upper (env.loadNamed name) (planLoad name) := by
  refine (Carries.observe hBound Render.after_scopes).bind fun scopes => ?_
  cases name.resolve scopes with
  | string text => exact .load hBound text
  | _ => exact .observe hBound (Render.after_throw _)

include hLimit

private theorem carries_accepts (names : List String) (condition : Option Condition)
    (item : Value) :
    env.Carries bound lower upper (env.accepts names condition item)
      (env.planAccepts names condition item) := by
  refine (Carries.observe hBound (Render.after_ofExcept _)).bind fun scope => ?_
  exact .within hBound scope hLimit (.observe hLimit (env.after_test condition))

private theorem carries_acceptedItems (names : List String)
    (condition : Option Condition) (items : List Value) :
    env.Carries bound lower upper (env.acceptedItems names condition items)
      (env.planAccepted names condition items) := by
  cases condition with
  | none => exact .pure items
  | some condition =>
      exact .select (carries_accepts hBound hLimit names (some condition)) [] items

variable {body empty : Render σ String} {planBody planEmpty : Plan σ String}

private theorem carries_renderItem
    (hBody : env.Carries bound (lower + 1) (env.maxDepth + 1) body planBody)
    (names : List String) (length : Nat) (item : Value × Nat) :
    env.Carries bound lower upper (env.renderItem names length body item)
      (planItem names length planBody item) := by
  refine (Carries.observe hBound (Render.after_ofExcept _)).bind fun scope => ?_
  refine .within hBound _ hLimit
    (.within hLimit scope hLimit (hBody.mono ?_ (Nat.le_refl _)))
  omega

private theorem carries_renderLoop
    (hBody : env.Carries bound (lower + 1) (env.maxDepth + 1) body planBody)
    (hEmpty : env.Carries bound (lower + 1) (env.maxDepth + 1) empty planEmpty)
    (names : List String) (source : Operand) (condition : Option Condition) :
    env.Carries bound lower upper (env.renderLoop names source condition body empty)
      (env.planLoop names source condition planBody planEmpty) := by
  refine (Carries.observe hBound (env.after_resolve source)).bind fun value => ?_
  refine (carries_acceptedItems hBound hLimit names condition _).bind fun items => ?_
  unfold renderItems
  by_cases hNone : items.isEmpty
  · rw [if_pos hNone, if_pos hNone]
    exact .within hBound Mapping.empty hLimit hEmpty
  · rw [if_neg hNone, if_neg hNone]
    let pieces := items.zipIdx.map fun item =>
      (env.renderItem names items.length body item,
        planItem names items.length planBody item)
    have hPieces : ∀ piece ∈ pieces, env.Carries bound lower upper piece.1 piece.2 := by
      intro piece hPiece
      obtain ⟨item, -, rfl⟩ := List.mem_map.mp hPiece
      exact carries_renderItem hBound hLimit hBody names items.length item
    have hTexts := Carries.joinTexts hPieces ""
    simpa only [pieces, List.map_map, Function.comp_def] using hTexts

private theorem carries_renderFiltered
    (hBody : env.Carries bound lower upper body planBody) (chain : FilterChain) :
    env.Carries bound lower upper (env.renderFiltered chain body)
      (planFiltered chain planBody) := by
  refine hBody.bind fun text => .within hBound _ hLimit ?_
  refine (Carries.observe hLimit Render.after_scopes).bind fun scopes => ?_
  exact (Carries.observe hLimit (Render.after_ofExcept _)).bind fun value => .pure _

variable {deeper : List Node → Render σ String}
  (hDeeper : ∀ nodes, env.Carries bound (lower + 1) (env.maxDepth + 1) (deeper nodes)
    (Plan.visit nodes))

include hDeeper

private theorem carries_renderReplacement
    (hBody : env.Carries bound lower upper body planBody) (replacement : Block Node) :
    env.Carries bound lower upper
      (env.renderReplacement replacement body (deeper [.block replacement]))
      (planReplacement replacement planBody) := by
  unfold renderReplacement planReplacement
  split
  · refine (Carries.observe hBound Render.after_overrides).bind fun waiting => ?_
    refine hBody.outcome.bind fun text => ?_
    refine (Carries.setOverrides hBound waiting).bind fun _ => ?_
    refine (Carries.observe hBound (Render.after_ofExcept text)).bind fun text => ?_
    exact .within hBound _ hLimit (hDeeper _)
  · exact .within hBound Mapping.empty hLimit (hDeeper _)

private theorem carries_renderParent (parent : Variable)
    (blocks : List (String × Block Node)) :
    env.Carries bound lower upper (env.renderParent parent blocks deeper)
      (planParent parent blocks) := by
  refine (carries_loadNamed hBound parent).bind fun template => ?_
  refine (Carries.observe hBound Render.after_overrides).bind fun before => ?_
  refine (Carries.setOverrides hBound _).bind fun _ => ?_
  refine (Carries.within hBound Mapping.empty hLimit (hDeeper _)).outcome.bind
    fun text => ?_
  cases before with
  | none =>
      refine (Carries.setOverrides hBound none).bind fun _ => ?_
      exact .observe hBound (Render.after_ofExcept text)
  | some waiting => exact .observe hBound (Render.after_ofExcept text)

private theorem carries_renderEmbedded (name : Variable) (bindings : Option Variable) :
    env.Carries bound lower upper (env.renderEmbedded name bindings deeper)
      (planEmbedded name bindings) := by
  refine (carries_loadNamed hBound name).bind fun template => ?_
  refine (Carries.observe hBound (after_scopeOf bindings)).bind fun scope => ?_
  exact .within hBound scope hLimit (hDeeper _)

end Tags

/-! ## Trees -/

section Trees

-- The recursion hands the hypotheses on, which the linter does not see.
set_option linter.unusedSectionVars false

variable {lower : Nat} {deeper : List Node → Render σ String}
  (hLimit : env.maxDepth + 1 ≤ bound)
  (hDeeper : ∀ nodes, env.Carries bound (lower + 1) (env.maxDepth + 1) (deeper nodes)
    (Plan.visit nodes))

include hLimit hDeeper

mutual

private theorem carries_renderNode (node : Node) :
    env.Carries bound lower bound (env.renderNode deeper node) (env.planNode node) := by
  have hSelf : bound ≤ bound := Nat.le_refl bound
  cases node with
  | text contents => exact .pure contents
  | output operand =>
      exact (Carries.observe hSelf (env.after_resolve operand)).bind
        fun value => .pure _
  | loop names source condition body empty =>
      have hBody := (carries_renderNodes body).mono (Nat.le_succ lower) hLimit
      have hEmpty := (carries_renderNodes empty).mono (Nat.le_succ lower) hLimit
      exact carries_renderLoop hSelf hLimit hBody hEmpty names source condition
  | choice branches => exact carries_renderBranches branches
  | block block => exact carries_renderBlock block
  | inherit parent blocks =>
      exact carries_renderParent hSelf hLimit hDeeper parent blocks
  | embed name bindings =>
      exact carries_renderEmbedded hSelf hLimit hDeeper name bindings
  | filtered chain body =>
      exact carries_renderFiltered hSelf hLimit (carries_renderNodes body) chain
  | now format => exact .observe hSelf (env.after_renderNow format)
  | custom action => exact carries_renderAction action

private theorem carries_renderBlock (block : Block Node) :
    env.Carries bound lower bound (env.renderBlock deeper block)
      (env.planBlock block) := by
  obtain ⟨name, usesSuper, body⟩ := block
  have hBody := carries_renderNodes body
  refine (Carries.takeOverride (Nat.le_refl bound) name).bind fun replacement => ?_
  cases replacement with
  | none => exact hBody
  | some replacement =>
      exact carries_renderReplacement (Nat.le_refl bound) hLimit hDeeper
        hBody replacement

theorem carries_renderNodes (nodes : List Node) :
    env.Carries bound lower bound (env.renderNodes deeper nodes)
      (env.planNodes nodes) := by
  cases nodes with
  | nil => exact .pure ""
  | cons node rest =>
      refine (carries_renderNode node).bind fun text => ?_
      exact (carries_renderNodes rest).bind fun more => .pure (text ++ more)

private theorem carries_renderBranches (branches : List (Branch Node)) :
    env.Carries bound lower bound (env.renderBranches deeper branches)
      (env.planBranches branches) := by
  cases branches with
  | nil => exact .pure ""
  | cons branch rest =>
      obtain ⟨condition, body⟩ := branch
      refine (Carries.observe (Nat.le_refl bound) (env.after_test condition)).bind
        fun answer => ?_
      cases answer with
      | true =>
          have hBody := (carries_renderNodes body).mono (Nat.le_succ lower) hLimit
          exact .within (Nat.le_refl bound) Mapping.empty hLimit hBody
      | false => exact carries_renderBranches rest

private theorem carries_renderAction (action : Action) :
    env.Carries bound lower bound (env.renderAction deeper action)
      (env.planAction action) := by
  have hSelf : bound ≤ bound := Nat.le_refl bound
  cases action with
  | done text => exact .pure text
  | fail error => exact .observe hSelf (Render.after_throw error)
  | inspect next =>
      refine (Carries.observe hSelf Render.after_scopes).bind fun scopes => ?_
      exact carries_renderAction (next scopes)
  | set name value next =>
      refine (Carries.set hSelf name value).bind fun _ => ?_
      exact carries_renderAction next
  | within scope inner next =>
      have hInner := (carries_renderAction inner).mono (Nat.le_succ lower) hLimit
      refine (Carries.within hSelf scope hLimit hInner).outcome.bind fun outcome => ?_
      exact carries_renderAction (next outcome)
  | nodes body next =>
      refine (carries_renderNodes body).outcome.bind fun outcome => ?_
      exact carries_renderAction (next outcome)

end

end Trees

/-! ## Whole renderings -/

/-- Nodes found on the way are rendered as trees of their own, one step later. -/
theorem Carries.visit {lower upper : Nat} {nodes : List Node}
    {computation : Render σ String} (hBound : upper ≤ bound)
    (h : env.Carries bound lower upper computation (env.planNodes nodes)) :
    env.Carries bound lower upper computation (Plan.visit nodes) := by
  intro context hLow hHigh
  obtain ⟨hDepth, hLeads⟩ := h context hLow hHigh
  exact ⟨hDepth, fun next => .step (Nat.le_trans hHigh hBound) (hLeads next)⟩

/-- Layers are enough if there are as many of them as scopes can still be opened. The
lowest layer, which only fails, is asked for nothing then: no scope is left to be opened
for it. -/
private theorem carries_renderLayered (hLimit : env.maxDepth + 1 ≤ bound)
    (layers lower : Nat) (hEnough : env.maxDepth + 1 ≤ layers + lower)
    (nodes : List Node) :
    env.Carries bound lower bound (env.renderLayered layers nodes)
      (env.planNodes nodes) := by
  induction layers generalizing lower nodes with
  | zero =>
      refine carries_renderNodes hLimit (fun inner context hLow hHigh => ?_) nodes
      omega
  | succ layers ih =>
      refine carries_renderNodes hLimit (fun inner => ?_) nodes
      exact ((ih (lower + 1) (by omega) inner).mono (Nat.le_refl _) hLimit).visit hLimit

private theorem carries_render (hLimit : env.maxDepth + 1 ≤ bound) (lower : Nat)
    (nodes : List Node) :
    env.Carries bound lower bound (env.render nodes) (env.planNodes nodes) :=
  carries_renderLayered hLimit (env.maxDepth + 1) lower (Nat.le_add_right _ _) nodes

/-- A rendering leads from its start to its end, with no more scopes open than one more
than the limit, or than at the start if these were more. -/
theorem leads_render (nodes : List Node) (context : Context σ) :
    env.Leads (max context.scopes.length (env.maxDepth + 1)) (.start nodes context)
      ⟨(env.render nodes).after context,
        .halt ((env.render nodes).result context)⟩ := by
  have hCarries :=
    (carries_render (Nat.le_max_right context.scopes.length (env.maxDepth + 1)) 0
      nodes).visit (Nat.le_refl _)
  exact (hCarries context (Nat.zero_le _) (Nat.le_max_left _ _)).2 .halt

/-- Layers cannot be seen: rendering is one layer on top of rendering. -/
theorem render_eq_renderNodes (nodes : List Node) :
    env.render nodes = env.renderNodes env.render nodes := by
  funext context
  let bound := max context.scopes.length (env.maxDepth + 1)
  have hLimit : env.maxDepth + 1 ≤ bound := Nat.le_max_right _ _
  have hUnlayered : env.Carries bound 0 bound (env.renderNodes env.render nodes)
      (env.planNodes nodes) :=
    carries_renderNodes hLimit
      (fun inner => ((carries_render hLimit 1 inner).mono (Nat.le_refl _) hLimit).visit
        hLimit) nodes
  have hLeads :=
    ((hUnlayered.visit (Nat.le_refl _)) context (Nat.zero_le _) (Nat.le_max_left _ _)).2
    .halt
  obtain ⟨hAfter, hResult⟩ := (leads_render nodes context).halt_unique hLeads
  exact Render.ext_run hResult hAfter

/-- Every rendering ends, with a text or an error: the machine that renders a template
for some data halts after some number of steps, with the result of `render`, and after
any number of steps at most one scope more is open than the limit allows to be opened.
The loader may answer whatever it likes, as often as it is asked. -/
theorem render_halts (env : Environment σ) (nodes : List Node) (data : Mapping Value)
    (shelf : Shelf σ) :
    let context : Context σ := ⟨[data], none, shelf⟩
    (∃ steps, env.run steps (.start nodes context) =
        ⟨(env.render nodes).after context, .halt ((env.render nodes).result context)⟩) ∧
      ∀ steps, (env.run steps (.start nodes context)).depth ≤ env.maxDepth + 1 := by
  intro context
  have hLeads : env.Leads _ _ _ := leads_render nodes context
  have hBound : max context.scopes.length (env.maxDepth + 1) = env.maxDepth + 1 :=
    Nat.max_eq_right (Nat.le_add_left 1 env.maxDepth)
  rw [hBound] at hLeads
  refine ⟨hLeads.exists_run, hLeads.depth_run_le rfl ?_⟩
  show ((env.render nodes).after context).scopes.length ≤ env.maxDepth + 1
  rw [(env.keeps_render nodes context).depth]
  exact Nat.le_add_left 1 env.maxDepth

end Environment

end TextTemplate
