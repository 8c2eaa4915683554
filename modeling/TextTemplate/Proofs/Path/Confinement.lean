import TextTemplate.Path
import TextTemplate.Proofs.Text.Division

/-!
# Names stay below their base

`Path.confine` keeps a path and a depth in step while it follows the steps of a name:
every name that is pushed raises the depth, and every step upwards takes a name off
again. This module proves that the depth is always the number of names that stand behind
the base, so that no step upwards ever touches the base itself.

The base may change its text on the way, since taking off the last name drops idle
pieces before it, but never what it means. So `below` writes a path as a base and the
names behind it, and the base is known up to its steps only.

## Main results

* `parent_below` — taking off a name that was pushed gives back what it was pushed onto.
* `follow_eq_none_iff` — following steps fails exactly if they climb too high or go to
  the root.
* `steps_of_follow` — otherwise the result is the base and the normal form of the steps.
-/

namespace TextTemplate.Path

/-- An ordinary name: not empty, neither of the two dot names, and without a slash. -/
def IsName (name : String) : Prop :=
  name ≠ "" ∧ name ≠ "." ∧ name ≠ ".." ∧ '/' ∉ name.toList

/-! ## The steps of pieces -/

/-- A piece that steps down is the name that it steps down to, and it is neither empty
nor made of dots. -/
theorem stepOf?_eq_down {piece name : String} :
    stepOf? piece = some (.down name) ↔ piece = name ∧ name ≠ "" ∧ name ≠ "." ∧
      name ≠ ".." := by
  unfold stepOf?
  by_cases hIdle : piece = "" ∨ piece = "."
  · have hName : ¬ (piece = name ∧ name ≠ "" ∧ name ≠ "." ∧ name ≠ "..") := by
      rintro ⟨rfl, hEmpty, hDot, -⟩
      exact hIdle.elim hEmpty hDot
    simp [hIdle, hName]
  · by_cases hUp : piece = ".."
    · subst hUp
      have hName : ¬ (".." = name ∧ name ≠ "" ∧ name ≠ "." ∧ name ≠ "..") := by
        rintro ⟨rfl, -, -, hUp⟩
        exact hUp rfl
      simp [hName]
    · rw [not_or] at hIdle
      simp only [hIdle, hUp, decide_false, Bool.or_self, Bool.false_eq_true, if_false,
        Option.some.injEq, Step.down.injEq]
      constructor
      · rintro rfl
        exact ⟨rfl, hIdle.1, hIdle.2, hUp⟩
      · exact fun h => h.1

/-- The steps of pieces that a name follows: an empty first piece then stands for
the root. -/
def stepsBefore : List String → List Step
  | "" :: rest => .root :: rest.filterMap stepOf?
  | "." :: rest => .here :: rest.filterMap stepOf?
  | pieces => pieces.filterMap stepOf?

/-- Pieces have the same steps with and without a name behind them, unless the text
is empty. -/
private theorem steps_eq_stepsBefore {pieces : List String} (h : pieces ≠ [""]) :
    (⟨pieces⟩ : Path).steps = stepsBefore pieces := by
  match pieces with
  | [] => rfl
  | [piece] =>
      have hPiece : piece ≠ "" := fun hEmpty => h (by rw [hEmpty])
      by_cases hDot : piece = "."
      · subst hDot
        rfl
      · simp [steps, stepsBefore, hPiece, hDot]
  | first :: second :: rest =>
      by_cases hEmpty : first = ""
      · subst hEmpty
        rfl
      · by_cases hDot : first = "."
        · subst hDot
          rfl
        · simp [steps, stepsBefore, hEmpty, hDot]

/-- A further piece adds its own step. -/
theorem stepsBefore_append {front : List String} (hFront : front ≠ [])
    (piece : String) :
    stepsBefore (front ++ [piece]) = stepsBefore front ++ (stepOf? piece).toList := by
  obtain ⟨first, rest, rfl⟩ := List.exists_cons_of_ne_nil hFront
  by_cases hEmpty : first = ""
  · subst hEmpty
    cases hPiece : stepOf? piece <;> simp [stepsBefore, hPiece]
  · by_cases hDot : first = "."
    · subst hDot
      cases hPiece : stepOf? piece <;> simp [stepsBefore, hPiece]
    · cases hPiece : stepOf? piece <;> cases hFirst : stepOf? first <;>
        simp [stepsBefore, hEmpty, hDot, hPiece, hFirst]

/-- The steps of pieces that end in a name. -/
private theorem steps_append_name (front : List String) {name : String}
    (hName : stepOf? name = some (.down name)) :
    (⟨front ++ [name]⟩ : Path).steps = stepsBefore front ++ [.down name] := by
  obtain ⟨-, hEmpty, hDot, -⟩ := stepOf?_eq_down.mp hName
  have hPieces : front ++ [name] ≠ [""] := by
    intro h
    cases front with
    | nil => exact hEmpty (by simpa using h)
    | cons first rest => simp at h
  rw [steps_eq_stepsBefore hPieces]
  cases front with
  | nil => simp [stepsBefore, hEmpty, hDot, hName]
  | cons first rest => rw [stepsBefore_append (by simp), hName, Option.toList_some]

/-- The slash that may end a path is no step of it. -/
theorem stepsBefore_stem (path : Path) :
    stepsBefore (stem path.pieces) = path.steps := by
  obtain ⟨pieces⟩ := path
  unfold stem
  cases hLast : pieces.getLast? with
  | none =>
      rw [List.getLast?_eq_none_iff] at hLast
      subst hLast
      rfl
  | some last =>
      obtain ⟨front, rfl⟩ := List.getLast?_eq_some_iff.mp hLast
      by_cases hEmpty : last = ""
      · subst hEmpty
        rw [if_pos rfl, List.dropLast_concat]
        cases front with
        | nil => rfl
        | cons first rest =>
            have hSteps : stepOf? "" = none := rfl
            rw [steps_eq_stepsBefore (by simp), stepsBefore_append (by simp), hSteps,
              Option.toList_none, List.append_nil]
      · have hPieces : front ++ [last] ≠ [""] := by
          cases front <;> simp [hEmpty]
        rw [if_neg (by simpa using hEmpty), steps_eq_stepsBefore hPieces]

/-! ## Pushing a name and taking it off again -/

@[simp] theorem pieces_push (path : Path) (name : String) :
    (path.push name).pieces = stem path.pieces ++ [name] := rfl

/-- Pushing a name adds the step down to it. -/
private theorem steps_push (path : Path) {name : String}
    (hName : stepOf? name = some (.down name)) :
    (path.push name).steps = path.steps ++ [.down name] := by
  rw [← stepsBefore_stem path]
  exact steps_append_name _ hName

/-- Idle pieces make no step. -/
private theorem stepsBefore_dropIdle (before : List String) :
    stepsBefore (dropIdle before).reverse = stepsBefore before.reverse := by
  fun_induction dropIdle before with
  | case1 => rfl
  | case2 => rfl
  | case3 piece before hBefore hIdle ih =>
      have hPiece : stepOf? piece = none := by rw [stepOf?, if_pos hIdle]
      have hFront : before.reverse ≠ [] := by simpa using hBefore
      rw [ih, List.reverse_cons, stepsBefore_append hFront, hPiece, Option.toList_none,
        List.append_nil]
  | case4 => rfl

/-- What is left when a name is taken off a stem. -/
theorem parent_push (path : Path) (name : String) :
    (path.push name).parent =
      match (stem path.pieces).reverse with
      | [] => ⟨[""]⟩
      | before =>
        match (dropIdle before).reverse with
        | [""] => ⟨["", ""]⟩
        | pieces => ⟨pieces⟩ := by
  have hBefore : (path.push name).pieces.reverse.drop 1 =
      (stem path.pieces).reverse := by
    rw [pieces_push, List.reverse_append, List.reverse_singleton]
    rfl
  show (match (path.push name).pieces.reverse.drop 1 with
    | [] => (⟨[""]⟩ : Path)
    | before =>
      match (dropIdle before).reverse with
      | [""] => ⟨["", ""]⟩
      | pieces => ⟨pieces⟩) = _
  rw [hBefore]

/-- Taking off a name that was pushed leaves the meaning of what it was pushed onto. -/
private theorem steps_parent_push (path : Path) (name : String) :
    (path.push name).parent.steps = path.steps := by
  rw [parent_push, ← stepsBefore_stem path]
  split
  · rename_i hStem
    rw [List.reverse_eq_nil_iff] at hStem
    rw [hStem]
    rfl
  · have hSteps := stepsBefore_dropIdle (stem path.pieces).reverse
    rw [List.reverse_reverse] at hSteps
    split
    · rename_i hPieces
      rw [← hSteps, hPieces]
      rfl
    · rename_i hPieces
      rw [steps_eq_stepsBefore hPieces, hSteps]

/-- Taking off a name that was pushed onto another name leaves exactly what was
there. -/
private theorem parent_push_of_getLast? {path : Path} {last : String}
    (hLast : path.pieces.getLast? = some last)
    (hName : stepOf? last = some (.down last)) (name : String) :
    (path.push name).parent = path := by
  obtain ⟨pieces⟩ := path
  obtain ⟨front, rfl⟩ := List.getLast?_eq_some_iff.mp hLast
  obtain ⟨-, hEmpty, hDot, -⟩ := stepOf?_eq_down.mp hName
  have hStem : stem (front ++ [last]) = front ++ [last] := by
    unfold stem
    rw [List.getLast?_concat, if_neg (by simpa using hEmpty)]
  have hKept : (dropIdle (last :: front.reverse)).reverse = front ++ [last] := by
    cases hFront : front.reverse with
    | nil =>
        rw [List.reverse_eq_nil_iff] at hFront
        subst hFront
        rfl
    | cons next rest =>
        rw [dropIdle, if_neg (by simp [hEmpty, hDot]), ← hFront, List.reverse_cons,
          List.reverse_reverse]
        simp
  have hPieces : front ++ [last] ≠ [""] := by
    cases front <;> simp [hEmpty]
  rw [parent_push]
  simp only [hStem, List.reverse_append, List.reverse_singleton, List.singleton_append,
    hKept]

/-! ## A base and the names behind it -/

/-- The path of some names, the last one first, behind a base. -/
def below (base : Path) : List String → Path
  | [] => base
  | name :: trail => (below base trail).push name

private theorem steps_below (base : Path) {trail : List String}
    (hTrail : ∀ name ∈ trail, stepOf? name = some (.down name)) :
    (base.below trail).steps = base.steps ++ trail.reverse.map .down := by
  induction trail with
  | nil => simp [below]
  | cons name trail ih =>
      have hName := hTrail name (by simp)
      have hRest := ih fun other hOther => hTrail other (by simp [hOther])
      rw [below, steps_push _ hName, hRest]
      simp

/-- Taking off the last name leaves the names before it, behind a base that means
the same. -/
theorem parent_below (base : Path) (name : String) {trail : List String}
    (hTrail : ∀ name ∈ trail, stepOf? name = some (.down name)) :
    ∃ again : Path, again.steps = base.steps ∧
      (base.below (name :: trail)).parent = again.below trail := by
  cases trail with
  | nil => exact ⟨(base.push name).parent, steps_parent_push base name, rfl⟩
  | cons last trail =>
      have hLast : (base.below (last :: trail)).pieces.getLast? = some last := by
        simp [below]
      exact ⟨base, rfl, parent_push_of_getLast? hLast (hTrail last (by simp)) name⟩

/-! ## Climbing too high -/

/-- Whether a step goes down to a name. -/
def Step.isDown : Step → Bool
  | .down _ => true
  | _ => false

/-- Some first steps, none of them to the root, go up more often than they go down and
`depth` allow. -/
def Climbs (depth : Nat) (steps : List Step) : Prop :=
  ∃ before, before <+: steps ∧ .root ∉ before ∧
    depth + before.countP Step.isDown < before.count .up

private theorem not_climbs_nil (depth : Nat) : ¬ Climbs depth [] := by
  rintro ⟨before, hBefore, -, hCount⟩
  rw [List.prefix_nil] at hBefore
  subst hBefore
  simp at hCount

/-- A step that is not to the root moves the depth and leaves the question to the steps
behind it. -/
private theorem climbs_cons {depth : Nat} {step : Step} (hStep : step ≠ .root)
    (rest : List Step) :
    Climbs depth (step :: rest) ↔
      ∃ before, before <+: rest ∧ .root ∉ before ∧
        depth + (step :: before).countP Step.isDown < (step :: before).count .up := by
  constructor
  · rintro ⟨before, hBefore, hRoot, hCount⟩
    cases before with
    | nil => simp at hCount
    | cons first before =>
        obtain ⟨rfl, hRest⟩ := List.cons_prefix_cons.mp hBefore
        exact ⟨before, hRest, fun h => hRoot (List.mem_cons_of_mem _ h), hCount⟩
  · rintro ⟨before, hBefore, hRoot, hCount⟩
    refine ⟨step :: before, List.cons_prefix_cons.mpr ⟨rfl, hBefore⟩, ?_, hCount⟩
    rw [List.mem_cons, not_or]
    exact ⟨fun h => hStep h.symm, hRoot⟩

private theorem climbs_down (depth : Nat) (name : String) (rest : List Step) :
    Climbs depth (.down name :: rest) ↔ Climbs (depth + 1) rest := by
  rw [climbs_cons (by simp)]
  have hCount : ∀ before : List Step,
      depth + (Step.down name :: before).countP Step.isDown <
        (Step.down name :: before).count .up ↔
        depth + 1 + before.countP Step.isDown < before.count .up := by
    intro before
    rw [List.countP_cons_of_pos rfl, List.count_cons_of_ne (by simp)]
    omega
  simp only [hCount, Climbs]

private theorem climbs_here (depth : Nat) (rest : List Step) :
    Climbs depth (.here :: rest) ↔ Climbs depth rest := by
  rw [climbs_cons (by simp)]
  have hCount : ∀ before : List Step,
      depth + (Step.here :: before).countP Step.isDown <
        (Step.here :: before).count .up ↔
        depth + before.countP Step.isDown < before.count .up := by
    intro before
    rw [List.countP_cons_of_neg (by simp [Step.isDown]),
      List.count_cons_of_ne (by simp)]
  simp only [hCount, Climbs]

private theorem climbs_up (depth : Nat) (rest : List Step) :
    Climbs (depth + 1) (.up :: rest) ↔ Climbs depth rest := by
  rw [climbs_cons (by simp)]
  have hCount : ∀ before : List Step,
      depth + 1 + (Step.up :: before).countP Step.isDown <
        (Step.up :: before).count .up ↔
        depth + before.countP Step.isDown < before.count .up := by
    intro before
    rw [List.countP_cons_of_neg (by simp [Step.isDown]), List.count_cons_self]
    omega
  simp only [hCount, Climbs]

private theorem climbs_zero_up (rest : List Step) : Climbs 0 (.up :: rest) :=
  ⟨[.up], by simp, by simp, by simp [Step.isDown]⟩

/-- Whether a path leaves the place where it starts: it goes to the root, or at some
point before that it has gone up more often than down. -/
def Escapes (steps : List Step) : Prop :=
  .root ∈ steps ∨ Climbs 0 steps

/-- Following steps fails exactly if they go to the root or climb too high. -/
theorem follow_eq_none_iff (joined : Path) (depth : Nat) (steps : List Step) :
    follow joined depth steps = none ↔ .root ∈ steps ∨ Climbs depth steps := by
  induction steps generalizing joined depth with
  | nil => simp [follow, not_climbs_nil]
  | cons step rest ih =>
      cases step with
      | root => simp [follow]
      | here => simp [follow, ih, climbs_here]
      | down name => simp [follow, ih, climbs_down]
      | up =>
          cases depth with
          | zero => simp [follow, climbs_zero_up]
          | succ depth => simp [follow, ih, climbs_up]

/-! ## Normal forms -/

/-- The names that are left of some names, the last one first, when steps follow: a step
down adds its name and a step up takes the last name away. -/
def normalFrom (trail : List String) : List Step → List String
  | [] => trail.reverse
  | .down name :: rest => normalFrom (name :: trail) rest
  | .up :: rest => normalFrom trail.tail rest
  | .here :: rest => normalFrom trail rest
  | .root :: rest => normalFrom trail rest

/-- The lexical normal form of a path, as the names that it leads down to. -/
def normal (path : Path) : List String :=
  normalFrom [] path.steps

private theorem mem_of_mem_normalFrom {trail : List String} {steps : List Step}
    {name : String} (h : name ∈ normalFrom trail steps) :
    name ∈ trail ∨ .down name ∈ steps := by
  fun_induction normalFrom trail steps with
  | case1 trail => exact Or.inl (List.mem_reverse.mp h)
  | case2 trail first rest ih =>
      rcases ih h with hTrail | hRest
      · rcases List.mem_cons.mp hTrail with rfl | hTrail
        · exact Or.inr (by simp)
        · exact Or.inl hTrail
      · exact Or.inr (List.mem_cons_of_mem _ hRest)
  | case3 trail rest ih =>
      exact (ih h).imp List.mem_of_mem_tail (List.mem_cons_of_mem _)
  | case4 trail rest ih => exact (ih h).imp id (List.mem_cons_of_mem _)
  | case5 trail rest ih => exact (ih h).imp id (List.mem_cons_of_mem _)

/-- Where steps lead from some names behind a base: to the base and their normal form.
The base is given up to its meaning, since taking a name off may change its text. -/
theorem steps_of_follow {base path : Path} {trail : List String} {steps : List Step}
    (hTrail : ∀ name ∈ trail, stepOf? name = some (.down name))
    (hSteps : ∀ name, .down name ∈ steps → stepOf? name = some (.down name))
    (h : follow (base.below trail) trail.length steps = some path) :
    path.steps = base.steps ++ (normalFrom trail steps).map .down := by
  induction steps generalizing base trail with
  | nil =>
      cases h
      exact steps_below base hTrail
  | cons step rest ih =>
      have hRest : ∀ name, .down name ∈ rest → stepOf? name = some (.down name) :=
        fun name hName => hSteps name (List.mem_cons_of_mem _ hName)
      cases step with
      | root => cases h
      | here => exact ih hTrail hRest h
      | down name =>
          have hMore : ∀ other ∈ name :: trail, stepOf? other = some (.down other) :=
            List.forall_mem_cons.mpr ⟨hSteps name (by simp), hTrail⟩
          exact ih hMore hRest h
      | up =>
          cases trail with
          | nil => cases h
          | cons name trail =>
              have hLess := (List.forall_mem_cons.mp hTrail).2
              obtain ⟨again, hAgain, hParent⟩ := base.parent_below name hLess
              have hFollow : follow (again.below trail) trail.length rest =
                  some path := by
                rw [← hParent]
                exact h
              rw [← hAgain]
              exact ih hLess hRest hFollow

/-! ## Names as they are given -/

/-- The names that a path steps down to are pieces of it. -/
theorem down_mem_steps {path : Path} {name : String} (h : .down name ∈ path.steps) :
    name ∈ path.pieces ∧ stepOf? name = some (.down name) := by
  have hMem : ∀ pieces : List String, .down name ∈ pieces.filterMap stepOf? →
      name ∈ pieces ∧ stepOf? name = some (.down name) := by
    intro pieces hDown
    obtain ⟨piece, hPiece, hStep⟩ := List.mem_filterMap.mp hDown
    obtain ⟨rfl, -⟩ := stepOf?_eq_down.mp hStep
    exact ⟨hPiece, hStep⟩
  unfold steps at h
  split at h
  · rename_i piece rest hPieces
    have hRest := hMem (piece :: rest) (by simpa using h)
    rw [hPieces]
    exact ⟨List.mem_cons_of_mem _ hRest.1, hRest.2⟩
  · rename_i rest hPieces
    have hRest := hMem rest (by simpa using h)
    rw [hPieces]
    exact ⟨List.mem_cons_of_mem _ hRest.1, hRest.2⟩
  · exact hMem _ h

/-- No piece of a text has a slash. -/
private theorem slash_notMem_of_mem_pieces {text piece : String}
    (h : piece ∈ (ofString text).pieces) :
    '/' ∉ piece.toList := by
  obtain ⟨cs, hPiece, rfl⟩ := List.mem_map.mp h
  rw [String.toList_ofList]
  exact Text.notMem_of_mem_divide hPiece

/-- The normal form of a text is made of ordinary names. -/
theorem isName_of_mem_normal {text name : String} (h : name ∈ (ofString text).normal) :
    IsName name := by
  have hDown := (mem_of_mem_normalFrom h).resolve_left (by simp)
  obtain ⟨hPiece, hStep⟩ := down_mem_steps hDown
  obtain ⟨-, hEmpty, hDot, hUp⟩ := stepOf?_eq_down.mp hStep
  exact ⟨hEmpty, hDot, hUp, slash_notMem_of_mem_pieces hPiece⟩

/-- A name is refused exactly if it leaves the place where it starts; the base has no
part in it. -/
theorem confine_eq_none_iff (base name : Path) :
    base.confine name = none ↔ Escapes name.steps :=
  follow_eq_none_iff base 0 name.steps

/-- A name that is not refused leads from the base down to the names of its normal
form. -/
theorem steps_of_confine {base name path : Path} (h : base.confine name = some path) :
    path.steps = base.steps ++ name.normal.map .down := by
  have hNames : ∀ down, .down down ∈ name.steps → stepOf? down = some (.down down) :=
    fun _ hDown => (down_mem_steps hDown).2
  have hFollow : follow (base.below []) ([] : List String).length name.steps =
      some path := h
  exact steps_of_follow (by simp) hNames hFollow

end TextTemplate.Path
