import TextTemplate.Proofs.Inheritance.FilledTree
import TextTemplate.Proofs.Render.Halting

/-!
# Loops item by item

A loop first tests its condition for every item, in a scope that binds the loop
variables, and only then renders its body, for each item that is left, in two scopes of
its own. Both kinds of scope are opened on top of whatever scopes the context has at
that moment, and the body may do to the context what it likes, so it is not plain that
an item is rendered in the scopes around the loop and not in what an earlier item has
made of them. It is, since a body gives back every scope but its innermost one:
`inScopes` says in which scopes a computation runs, whatever the scopes of the context
are, and each item turns out to run in scopes that are known when the loop is entered.

## Main results

* `Render.within_eq_inScopes` — a computation in a new scope runs in that scope and
  those of the context.
* `Environment.acceptedItems_eq` — the items that are left are those for which the
  condition holds.
* `Environment.joinTexts_renderItem` — what the items of a loop render to, one after
  the other.
* `Environment.render_loop` — a whole loop.
-/

namespace TextTemplate

variable {σ α β : Type}

/-! ## Computations in given scopes -/

namespace Render

/-- Runs a computation in the given scopes. Those of the context stand again
afterwards. -/
def inScopes (scopes : Scopes) (computation : Render σ α) : Render σ α := fun context =>
  match computation { context with scopes } with
  | .ok value left => .ok value { left with scopes := context.scopes }
  | .error error left => .error error { left with scopes := context.scopes }

@[simp] theorem result_inScopes (scopes : Scopes) (computation : Render σ α)
    (context : Context σ) :
    (inScopes scopes computation).result context =
      computation.result { context with scopes } := by
  unfold result inScopes
  cases computation { context with scopes } <;> rfl

@[simp] theorem after_inScopes (scopes : Scopes) (computation : Render σ α)
    (context : Context σ) :
    (inScopes scopes computation).after context =
      { computation.after { context with scopes } with scopes := context.scopes } := by
  unfold after inScopes
  cases computation { context with scopes } <;> rfl

/-- A new scope lies on those of the context, and they are what a body gives back. -/
theorem within_eq_inScopes {body : Render σ α} (hBody : body.Keeps False) {limit : Nat}
    (scope : Scope) {context : Context σ} (hRoom : context.scopes.length ≤ limit) :
    Render.within limit scope body context =
      inScopes (scope :: context.scopes) body context := by
  have hOpen : ¬ limit < context.scopes.length := Nat.not_lt.mpr hRoom
  have hOuter : (body.after (context.push scope)).scopes.tail = context.scopes :=
    (hBody (context.push scope)).outer
  refine ext_run ?_ ?_
  · rw [result_within, if_neg hOpen, result_inScopes]
    rfl
  · rw [after_within, if_neg hOpen, after_inScopes, Context.pop, hOuter]
    rfl

/-- A new scope on given ones. -/
private theorem inScopes_within {body : Render σ α} (hBody : body.Keeps False)
    {limit : Nat} (scope : Scope) {outer : Scopes} (hRoom : outer.length ≤ limit)
    (context : Context σ) :
    inScopes outer (Render.within limit scope body) context =
      inScopes (scope :: outer) body context := by
  unfold inScopes
  rw [within_eq_inScopes hBody scope hRoom]
  unfold inScopes
  cases body { context with scopes := scope :: outer } <;> rfl

/-- Items that are accepted or not without a change to the context. -/
private theorem select_eq_filter {accept : α → Render σ Bool} {holds : α → Bool}
    {context : Context σ} {items : List α}
    (h : ∀ item ∈ items, accept item context = .ok (holds item) context)
    (accepted : List α) :
    Render.select accept accepted items context =
      .ok (accepted.reverse ++ items.filter holds) context := by
  induction items generalizing accepted with
  | nil =>
      rw [List.filter_nil, List.append_nil]
      rfl
  | cons item rest ih =>
      obtain ⟨hItem, hRest⟩ := List.forall_mem_cons.mp h
      rw [select, bind_run_of_ok hItem]
      cases hHolds : holds item with
      | true =>
          rw [if_pos rfl, ih hRest, List.filter_cons_of_pos hHolds, List.reverse_cons,
            List.append_assoc, List.singleton_append]
      | false =>
          rw [if_neg Bool.false_ne_true, ih hRest,
            List.filter_cons_of_neg (by rw [hHolds]; simp)]

/-- Texts behind a text are the texts in order, joined. -/
private theorem joinTexts_eq (text : String) (pieces : List (Render σ String)) :
    joinTexts text pieces = (do
      let texts ← pieces.mapM id
      return text ++ String.join texts) := by
  induction pieces generalizing text with
  | nil => simp [joinTexts]
  | cons first rest ih => simp [joinTexts, ih, List.mapM_cons, String.append_assoc]

/-- Computations that agree wherever the given scopes are open, and that give these
scopes back, agree one after the other. -/
private theorem mapM_congr_of_scopes {scopes : Scopes} {first second : α → Render σ β}
    {items : List α}
    (hAgree : ∀ item ∈ items, ∀ context : Context σ, context.scopes = scopes →
      first item context = second item context)
    (hBack : ∀ item ∈ items, ∀ context : Context σ, context.scopes = scopes →
      ((second item).after context).scopes = scopes) {context : Context σ}
    (hScopes : context.scopes = scopes) :
    items.mapM first context = items.mapM second context := by
  induction items generalizing context with
  | nil => rfl
  | cons item rest ih =>
      obtain ⟨hItem, hRest⟩ := List.forall_mem_cons.mp hAgree
      obtain ⟨hItemBack, hRestBack⟩ := List.forall_mem_cons.mp hBack
      have hLeft := hItemBack context hScopes
      unfold after at hLeft
      rw [List.mapM_cons, List.mapM_cons]
      simp only [bind, EStateM.bind, hItem context hScopes]
      cases hRun : second item context with
      | error error left => rfl
      | ok value left =>
          rw [hRun] at hLeft
          simp only [ih hRest hRestBack hLeft]

end Render

/-! ## What a loop tells about its items -/

/-- The position of an item as its body sees it. -/
private theorem Iteration.statusScope_eq (index length : Nat) :
    Iteration.statusScope index length = Mapping.singleton "forloop" (.mapping
      [("counter", Value.ofNat (index + 1)), ("counter0", Value.ofNat index),
        ("first", .bool (index == 0)),
        ("last", .bool (index + 1 == length)), ("length", Value.ofNat length)]) := by
  simp +decide only [statusScope, Value.ofMapping, status, Mapping.ofList,
    Entries.ofList, Entries.insert, List.foldl, if_true, if_false]

namespace Environment

open Render

variable {env : Environment σ} {names : List String}

/-! ## The items that are left -/

/-- The condition is tested in the scopes of the context and that of the item, and
nothing is left behind. -/
private theorem accepts_eq_ok {condition : Option Condition} {item : Value}
    {scope : Scope} {answer : Bool} {context : Context σ}
    (hBindings : Iteration.bindings names item = .ok scope)
    (hTest : (env.test condition).result (context.push scope) = .ok answer)
    (hRoom : context.scopes.length ≤ env.maxDepth) :
    env.accepts names condition item context = .ok answer context := by
  have hOpen : ¬ env.maxDepth < context.scopes.length := Nat.not_lt.mpr hRoom
  refine run_eq_ok ?_ ?_
  · simp [accepts, within, hBindings, hOpen, hTest]
  · simp only [accepts, within, after_bind, result_ofExcept, after_ofExcept, hBindings,
      after_within, if_neg hOpen, after_test]
    rfl

theorem acceptedItems_eq {condition : Option Condition} {scopeOf : Value → Scope}
    {holds : Value → Bool} {items : List Value} {context : Context σ}
    (hBindings : ∀ item ∈ items, Iteration.bindings names item = .ok (scopeOf item))
    (hHolds : ∀ item ∈ items,
      (env.test condition).result (context.push (scopeOf item)) = .ok (holds item))
    (hRoom : context.scopes.length ≤ env.maxDepth) :
    env.acceptedItems names condition items context =
      .ok (items.filter holds) context := by
  cases condition with
  | none =>
      have hAll : ∀ item ∈ items, holds item = true := fun item hItem =>
        (Except.ok.inj (hHolds item hItem)).symm
      rw [List.filter_eq_self.mpr hAll]
      rfl
  | some condition =>
      exact select_eq_filter (fun item hItem => accepts_eq_ok (hBindings item hItem)
        (hHolds item hItem) hRoom) []

/-! ## The body for each of them -/

private theorem renderItem_eq_inScopes {length : Nat} {body : Render σ String}
    {item : Value × Nat} {scope : Scope} {context : Context σ}
    (hBody : body.Keeps False) (hBindings : Iteration.bindings names item.1 = .ok scope)
    (hRoom : context.scopes.length < env.maxDepth) :
    env.renderItem names length body item context =
      inScopes (scope :: Iteration.statusScope item.2 length :: context.scopes) body
        context := by
  have hInner : (env.within scope body).Keeps False :=
    hBody.within False env.maxDepth scope
  have hScope : Render.ofExcept (Iteration.bindings names item.1) context =
      .ok scope context := by
    rw [hBindings]
    rfl
  calc env.renderItem names length body item context
      = Render.within env.maxDepth (Iteration.statusScope item.2 length)
        (env.within scope body) context :=
        bind_run_of_ok hScope
    _ = inScopes (Iteration.statusScope item.2 length :: context.scopes)
        (env.within scope body) context :=
        within_eq_inScopes hInner _ (Nat.le_of_lt hRoom)
    _ = inScopes (scope :: Iteration.statusScope item.2 length :: context.scopes)
        body context :=
        inScopes_within hBody scope (Nat.succ_le_of_lt hRoom) context

/-- The items one after the other: each in the scopes around the loop, with its position
and with what the loop variables bind for it. -/
theorem joinTexts_renderItem {scopeOf : Value → Scope} {items : List Value}
    {body : Render σ String} {context : Context σ} (hBody : body.Keeps False)
    (hBindings : ∀ item ∈ items, Iteration.bindings names item = .ok (scopeOf item))
    (hRoom : context.scopes.length < env.maxDepth) :
    Render.joinTexts "" (items.zipIdx.map
      (env.renderItem names items.length body)) context =
      (do
        let texts ← items.zipIdx.mapM fun entry =>
          inScopes (scopeOf entry.1 :: Iteration.statusScope entry.2 items.length ::
            context.scopes) body
        return String.join texts : Render σ String) context := by
  have hAgree : ∀ entry ∈ items.zipIdx, ∀ other : Context σ,
      other.scopes = context.scopes →
      env.renderItem names items.length body entry other =
        inScopes (scopeOf entry.1 :: Iteration.statusScope entry.2 items.length ::
          context.scopes) body other := by
    intro entry hEntry other hScopes
    rw [← hScopes] at hRoom ⊢
    exact renderItem_eq_inScopes hBody
      (hBindings entry.1 (List.fst_mem_of_mem_zipIdx hEntry)) hRoom
  have hBack : ∀ entry ∈ items.zipIdx, ∀ other : Context σ,
      other.scopes = context.scopes →
      ((inScopes (scopeOf entry.1 :: Iteration.statusScope entry.2 items.length ::
        context.scopes) body).after other).scopes = context.scopes := by
    intro entry _ other hScopes
    rw [after_inScopes]
    exact hScopes
  rw [joinTexts_eq, List.mapM_map]
  simp only [Function.comp_def, id, String.empty_append]
  simp only [bind, EStateM.bind, mapM_congr_of_scopes hAgree hBack rfl]

/-! ## Whole loops -/

/-- A loop is rendered as one over the items that are left. -/
private theorem render_loop_eq {source : Operand} {condition : Option Condition}
    (body empty : List Node) {context : Context σ} {value : Value}
    {scopeOf : Value → Scope} {holds : Value → Bool}
    (hSource : source.resolve env.maxRange context.scopes = .ok value)
    (hBindings : ∀ item ∈ Iteration.items value, Iteration.bindings names item =
      .ok (scopeOf item))
    (hHolds : ∀ item ∈ Iteration.items value,
      (env.test condition).result (context.push (scopeOf item)) = .ok (holds item))
    (hRoom : context.scopes.length ≤ env.maxDepth) :
    env.render [.loop names source condition body empty] context =
      env.renderItems names ((Iteration.items value).filter holds) (env.render body)
        (env.render empty)
        context := by
  have hValue : env.resolve source context = .ok value context :=
    run_eq_ok (by simp [resolve, hSource]) (env.after_resolve source context)
  rw [render_singleton, renderNode, renderLoop, bind_run_of_ok hValue,
    bind_run_of_ok (acceptedItems_eq hBindings hHolds hRoom), ← render_eq_renderNodes,
    ← render_eq_renderNodes]

/-- A loop whose source has a value, whose variables can be bound to every item and
whose condition can be tested for every item, where the limit leaves room for its
scopes. It is rendered as the loop without a condition over the items for which the
condition holds, in their order. If there are any, the text is that of the body for each
of them, one after the other: the body runs in the scopes that the loop was entered
with, one that binds `forloop` to the position, and one that binds the variables to the
item, and no scope is handed on from one item to the next. If there is none, the text is
that of the other body. The bodies and what they do to the context are arbitrary, and so
is how they fail. -/
theorem render_loop (env : Environment σ) (names : List String) (source : Operand)
    (condition : Option Condition) (body empty : List Node) (context : Context σ)
    (value : Value) (scopeOf : Value → Scope) (holds : Value → Bool)
    (hSource : source.resolve env.maxRange context.scopes = .ok value)
    (hBindings : ∀ item ∈ Iteration.items value, Iteration.bindings names item =
      .ok (scopeOf item))
    (hHolds : ∀ item ∈ Iteration.items value,
      (env.test condition).result (context.push (scopeOf item)) = .ok (holds item))
    (hRoom : context.scopes.length ≤ env.maxDepth) :
    let kept := (Iteration.items value).filter holds
    (∀ sequence : Operand, sequence.resolve env.maxRange context.scopes =
      .ok (.sequence kept) →
      env.render [.loop names source condition body empty] context =
        env.render [.loop names sequence none body empty] context) ∧
    (kept ≠ [] → context.scopes.length < env.maxDepth →
      env.render [.loop names source condition body empty] context =
        (do
          let texts ← kept.zipIdx.mapM fun (item, index) =>
            Render.inScopes
              (scopeOf item ::
                Mapping.singleton "forloop" (.mapping
                  [("counter", Value.ofNat (index + 1)),
                    ("counter0", Value.ofNat index), ("first", .bool (index == 0)),
                    ("last", .bool (index + 1 == kept.length)),
                    ("length", Value.ofNat kept.length)]) ::
                context.scopes)
              (env.render body)
          return String.join texts : Render σ String) context) ∧
    (kept = [] →
      env.render [.loop names source condition body empty] context =
        Render.inScopes (Mapping.empty :: context.scopes)
          (env.render empty) context) := by
  intro kept
  have hKept : ∀ item ∈ kept, Iteration.bindings names item = .ok (scopeOf item) :=
    fun item hItem => hBindings item (List.mem_filter.mp hItem).1
  have hLoop := render_loop_eq body empty hSource hBindings hHolds hRoom
  refine ⟨fun sequence hSequence => ?_, fun hSome hInner => ?_, fun hNone => ?_⟩
  · have hNone : ∀ item ∈ kept,
        (env.test none).result (context.push (scopeOf item)) = .ok true :=
      fun _ _ => rfl
    have hAll := render_loop_eq body empty hSequence hKept hNone hRoom
    rw [Iteration.items, List.filter_eq_self.mpr fun _ _ => rfl] at hAll
    rw [hLoop, hAll]
  · have hNotEmpty : ¬ kept.isEmpty = true := by rwa [List.isEmpty_iff]
    rw [hLoop, renderItems, if_neg hNotEmpty,
      joinTexts_renderItem (env.keeps_render body).loosen hKept hInner]
    simp only [Iteration.statusScope_eq]
  · have hEmpty : kept.isEmpty = true := List.isEmpty_iff.mpr hNone
    rw [hLoop, renderItems, if_pos hEmpty]
    exact within_eq_inScopes (env.keeps_render empty).loosen Mapping.empty hRoom

/-- Of the numbers 1, 0 and 2 the one in the middle is left out and not counted. The
body first prints the name that it then binds, and finds it unbound again for the
number 2. -/
theorem render_loop_of_dropped_item :
    let env : Environment Unit :=
  { clock := ⟨2024, 2, 29, 12, 0, 0, 0, 0⟩, maxDepth := 2 }
    let print : String → List String → Node :=
      fun source path => .output (.single ⟨source, .path path⟩)
    let body : List Node := [print "seen" ["seen"],
      .custom (.set "seen" (.bool true) (.done "")), print "n" ["n"],
        print "forloop.counter" ["forloop", "counter"]]
    let source : Operand := .single ⟨"numbers", .path ["numbers"]⟩
    let condition : Condition := .holds (.single ⟨"n", .path ["n"]⟩)
    let numbers : Value := .sequence [.int 1, .int 0, .int 2]
    let context : Context Unit :=
      ⟨[Mapping.singleton "numbers" numbers], none, ⟨Mapping.empty, ()⟩⟩
    source.resolve env.maxRange context.scopes = .ok numbers ∧
      (env.render [.loop ["n"] source (some condition) body []]).result context =
        .ok "1122" := by
  intro env print body source condition numbers context
  have hTest : ∀ item ∈ Iteration.items numbers,
      (env.test (some condition)).result (context.push (Mapping.singleton "n" item)) =
        .ok item.isTruthy := by
    intro item _
    cases item <;> rfl
  obtain ⟨-, hText, -⟩ := env.render_loop ["n"] source (some condition) body []
    context numbers
    (Mapping.singleton "n") Value.isTruthy rfl (fun _ _ => rfl) hTest (by decide)
  refine ⟨rfl, ?_⟩
  rw [Render.result, hText (by decide) (by decide)]
  rfl

end Environment

end TextTemplate
