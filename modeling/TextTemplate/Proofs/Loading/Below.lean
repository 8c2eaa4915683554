import Mathlib
import TextTemplate.Loader
import TextTemplate.Proofs.Path.Confinement

/-!
# What a loader of files reads

A loader of files below base directories looks at a path only after `Path.confine` has
let it through. This module proves what that is worth. Whatever stands outside the base
directories has no part in what the loader answers: two ways of looking paths up that
agree on a base followed by ordinary names are the same to it. And in a directory tree,
which has no links, the text that it answers with is that of a file found by going down
from a base directory, entry by entry.

## Main results

* `Loader.directories_congr` — nothing but paths below a base is looked at.
* `Loader.exists_file_of_firstBelow` — the text is that of a file below a
  base directory.
* `Loader.directories_confined` — how names are confined, and what that means for
  the loader.
-/

namespace TextTemplate

namespace FileTree

/-! ## Places in a tree -/

/-- What stands at a row of names below a tree. -/
def find? (tree : FileTree) : List String → Option FileTree
  | [] => some tree
  | name :: rest => (Entries.get? tree.children name).bind fun child => child.find? rest

namespace Place

/-- Where a step leads. -/
def go (place : Place) : Path.Step → Option Place
  | .root => some outside
  | .here => some place
  | .up =>
    match place with
    | within _ (parent :: above) => some (within parent above)
    | within _ [] => some outside
    | outside => some outside
  | .down name =>
    match place with
    | within tree above =>
      (Entries.get? tree.children name).map fun child => within child (tree :: above)
    | outside => none

/-- A piece that can be followed leads where its step leads, if it makes one, and
nowhere else. -/
private theorem go_of_step {place next : Place} {piece : String}
    (h : place.step piece = .ok next) :
    (Path.stepOf? piece).toList.foldlM go place = some next := by
  unfold Path.stepOf?
  by_cases hIdle : piece = "" ∨ piece = "."
  · have hNext : next = place := by
      match place, h with
      | within (.directory entries) above, h =>
          simp only [step, Bool.or_eq_true, decide_eq_true_eq, if_pos hIdle] at h
          exact (Except.ok.inj h).symm
      | outside, h =>
          rcases hIdle with rfl | rfl <;> exact (Except.ok.inj h).symm
    simp [hIdle, hNext]
  · by_cases hUp : piece = ".."
    · subst hUp
      match place, h with
      | within (.directory entries) [], h => cases h; rfl
      | within (.directory entries) (parent :: above), h => cases h; rfl
      | outside, h => cases h; rfl
    · rw [not_or] at hIdle
      match place, h with
      | within (.directory entries) above, h =>
          simp only [step, hIdle, hUp, decide_false, Bool.or_self, Bool.false_eq_true,
            if_false] at h
          split at h
          · cases h
          · split at h
            · rename_i child hChild
              cases h
              simp [hIdle, hUp, go, children, hChild]
            · cases h
      | outside, h =>
          simp only [step, hIdle, hUp, decide_false, Bool.or_self, Bool.false_eq_true,
            if_false] at h
          split at h <;> cases h

/-- Pieces that can be followed lead where their steps lead. -/
private theorem go_of_foldlM_step {place next : Place} {pieces : List String}
    (h : pieces.foldlM step place = .ok next) :
    (pieces.filterMap Path.stepOf?).foldlM go place = some next := by
  induction pieces generalizing place with
  | nil => cases h; rfl
  | cons piece rest ih =>
      rw [List.foldlM_cons] at h
      cases hStep : place.step piece with
      | error failure => rw [hStep] at h; cases h
      | ok middle =>
          rw [hStep] at h
          have hRest := ih h
          have hPiece := go_of_step hStep
          rw [List.filterMap_cons]
          cases hMade : Path.stepOf? piece with
          | none =>
              rw [hMade] at hPiece
              cases hPiece
              exact hRest
          | some made =>
              rw [hMade] at hPiece
              simp only [Option.toList_some, List.foldlM_cons, List.foldlM_nil,
                bind_pure] at hPiece
              simp only [List.foldlM_cons, hPiece]
              exact hRest

/-- Going down from a place to a tree means that the place is a tree and that the names
lead down from it. -/
private theorem find?_of_foldlM_go {place : Place} {names : List String}
    {leaf : FileTree} {outer : List FileTree}
    (h : (names.map .down).foldlM go place = some (within leaf outer)) :
    ∃ tree above, place = within tree above ∧ tree.find? names = some leaf := by
  induction names generalizing place with
  | nil =>
      cases h
      exact ⟨leaf, outer, rfl, rfl⟩
  | cons name rest ih =>
      cases place with
      | outside => cases h
      | within tree above =>
          rw [List.map_cons, List.foldlM_cons] at h
          cases hChild : Entries.get? tree.children name with
          | none => simp [go, hChild] at h
          | some child =>
              simp only [go, hChild, Option.map_some] at h
              obtain ⟨next, nextAbove, hNext, hFind⟩ := ih h
              cases hNext
              exact ⟨tree, above, rfl, by rw [find?, hChild, Option.bind_some, hFind]⟩

end Place

/-- The place that steps lead to from the current directory. -/
def place? (tree : FileTree) (steps : List Path.Step) : Option Place :=
  steps.foldlM Place.go (.within tree [])

/-- A file that stands at a path stands where the steps of the path lead. -/
private theorem place?_of_look {tree : FileTree} {path : Path} {bytes : ByteArray}
    (h : tree.look path = .file bytes) :
    ∃ above, tree.place? path.steps = some (.within (.file bytes) above) := by
  have hReached : ∃ above, path.pieces.foldlM Place.step
      (if path.isAbsolute then .outside else .within tree []) =
        .ok (.within (.file bytes) above) := by
    unfold look at h
    simp only at h
    split at h
    · cases h
    · split at h
      · cases h
      · split at h
        · cases h
        · cases h
        · rename_i found above hFound
          cases h
          exact ⟨above, hFound⟩
        · cases h
  obtain ⟨above, hReached⟩ := hReached
  refine ⟨above, ?_⟩
  obtain ⟨pieces⟩ := path
  unfold place? Path.steps
  split
  · rename_i piece rest hPieces
    cases hPieces
    exact Place.go_of_foldlM_step hReached
  · rename_i rest hPieces
    cases hPieces
    have hSteps : (("." :: rest).filterMap Path.stepOf?).foldlM Place.go
        (.within tree []) =
        some (.within (.file bytes) above) := Place.go_of_foldlM_step hReached
    exact hSteps
  · rename_i hNotRoot hNotHere
    have hRelative : Path.isAbsolute ⟨pieces⟩ = false := by
      unfold Path.isAbsolute
      split
      · rename_i piece rest hPieces
        exact absurd hPieces (hNotRoot piece rest)
      · rfl
    rw [hRelative] at hReached
    exact Place.go_of_foldlM_step hReached

/-- A file at a base followed by names is found by going down those names from the tree
at the base. -/
private theorem find?_of_look {tree : FileTree} {base path : Path} {names : List String}
    {bytes : ByteArray} (hSteps : path.steps = base.steps ++ names.map .down)
    (h : tree.look path = .file bytes) :
    ∃ directory above, tree.place? base.steps = some (.within directory above) ∧
      directory.find? names = some (.file bytes) := by
  obtain ⟨outer, hPlace⟩ := place?_of_look h
  rw [place?, hSteps, List.foldlM_append] at hPlace
  cases hBase : tree.place? base.steps with
  | none =>
      rw [place?] at hBase
      rw [hBase] at hPlace
      cases hPlace
  | some place =>
      rw [place?] at hBase
      rw [hBase] at hPlace
      obtain ⟨directory, above, rfl, hFind⟩ := Place.find?_of_foldlM_go hPlace
      exact ⟨directory, above, rfl, hFind⟩

end FileTree

namespace Loader

variable {σ : Type}

/-! ## Where a loader looks -/

/-- A path is one of the base directories followed by ordinary names. -/
def IsBelow (bases : List Path) (path : Path) : Prop :=
  ∃ base ∈ bases, ∃ names : List String, (∀ name ∈ names, Path.IsName name) ∧
    path.steps = base.steps ++ names.map .down

/-- A path that a name leads to is below the base directory that it was asked for at. -/
private theorem isBelow_of_confine {bases : List Path} {base path : Path}
    {name : String} (hBase : base ∈ bases)
    (h : base.confine (Path.ofString name) = some path) : IsBelow bases path :=
  ⟨base, hBase, _, fun _ => Path.isName_of_mem_normal, Path.steps_of_confine h⟩

private theorem readBelow_congr {bases : List Path} {probe other : Probe σ}
    (h : ∀ path, IsBelow bases path → probe path = other path) {base : Path}
    (hBase : base ∈ bases) (name : String) :
    readBelow probe base name = readBelow other base name := by
  unfold readBelow
  cases hPath : base.confine (Path.ofString name) with
  | none => rfl
  | some path =>
      have hLook := h path (isBelow_of_confine hBase hPath)
      simp only [hLook]
      rfl

private theorem firstFile_congr {bases : List Path} {probe other : Probe σ}
    (h : ∀ path, IsBelow bases path → probe path = other path)
    {places : List (Path × String)} (hPlaces : ∀ place ∈ places, place.1 ∈ bases) :
    firstFile probe places = firstFile other places := by
  induction places with
  | nil => rfl
  | cons place rest ih =>
      obtain ⟨base, name⟩ := place
      have hBase : base ∈ bases := hPlaces (base, name) (by simp)
      have hRest := ih fun place hPlace => hPlaces place (by simp [hPlace])
      rw [firstFile, firstFile, readBelow_congr h hBase name, hRest]

theorem mem_places {bases : List Path} {names : List String} {base : Path}
    {name : String} :
    (base, name) ∈ places bases names ↔ base ∈ bases ∧ name ∈ names := by
  simp [places]

/-- Ways of looking paths up that agree below the base directories make the same loader:
no other path is looked at. -/
theorem directories_congr {bases : List Path} {probe other : Probe σ}
    (h : ∀ path, IsBelow bases path → probe path = other path) :
    directories probe bases = directories other bases := by
  have hFirst : firstBelow probe bases = firstBelow other bases := by
    funext names
    have hPlaces : ∀ place ∈ places bases names, place.1 ∈ bases :=
      fun place hPlace => (mem_places.mp hPlace).1
    rw [firstBelow, firstBelow, firstFile_congr h hPlaces]
  unfold directories
  rw [hFirst]

/-! ## What a loader finds in a tree -/

/-- A name leads to a file with a text: from the tree at one of the base directories
down the names of its normal form. -/
def Holds (tree : FileTree) (bases : List Path) (name text : String) : Prop :=
  ∃ base ∈ bases, ∃ directory above bytes,
    tree.place? base.steps = some (.within directory above) ∧
      directory.find? (Path.ofString name).normal = some (.file bytes) ∧
      String.fromUTF8? bytes = some text

/-- A text that is read below a base directory is that of a file there. -/
private theorem holds_of_readBelow {tree : FileTree} {bases : List Path} {base : Path}
    {name text : String} {state after : σ} (hBase : base ∈ bases)
    (h : readBelow tree.probe base name state = .ok (some text) after) :
    Holds tree bases name text := by
  unfold readBelow at h
  cases hPath : base.confine (Path.ofString name) with
  | none => rw [hPath] at h; cases h
  | some path =>
      simp only [hPath, FileTree.probe, pure, StateT.pure] at h
      cases hLook : tree.look path with
      | directory => simp [hLook, FileStatus.isFile] at h
      | unreachable failure => simp [hLook, FileStatus.isFile] at h
      | locked failure => simp [hLook, FileStatus.isFile, FileStatus.readText] at h
      | file bytes =>
          simp only [hLook, FileStatus.isFile, if_true, FileStatus.readText] at h
          split at h
          · rename_i found hFound
            cases h
            obtain ⟨directory, above, hPlace, hFind⟩ :=
              FileTree.find?_of_look (Path.steps_of_confine hPath) hLook
            split at hFound
            · rename_i hText
              cases hFound
              exact ⟨base, hBase, directory, above, bytes, hPlace, hFind, hText⟩
            · cases hFound
          · cases h

private theorem holds_of_firstFile {tree : FileTree} {bases : List Path}
    {places : List (Path × String)} (hPlaces : ∀ place ∈ places, place.1 ∈ bases)
    {name text : String} {state after : σ}
    (h : firstFile tree.probe places state = .ok (some (name, text)) after) :
    name ∈ places.map Prod.snd ∧ Holds tree bases name text := by
  induction places generalizing state with
  | nil => cases h
  | cons place rest ih =>
      obtain ⟨base, asked⟩ := place
      have hBase : base ∈ bases := hPlaces (base, asked) (by simp)
      have hRest : ∀ place ∈ rest, place.1 ∈ bases :=
        fun place hPlace => hPlaces place (by simp [hPlace])
      simp only [firstFile, bind, EStateM.bind] at h
      cases hRead : readBelow tree.probe base asked state with
      | error error left => rw [hRead] at h; cases h
      | ok found left =>
          rw [hRead] at h
          cases found with
          | none =>
              have hLater := ih hRest h
              exact ⟨by simp [hLater.1], hLater.2⟩
          | some source =>
              cases h
              exact ⟨by simp, holds_of_readBelow hBase hRead⟩

/-- What the loader answers with is the text of a file below a base directory. -/
theorem exists_file_of_firstBelow {tree : FileTree} {bases : List Path}
    {names : List String} {name text : String} {state after : σ}
    (h : firstBelow tree.probe bases names state = .ok (name, text) after) :
    name ∈ names ∧ Holds tree bases name text := by
  simp only [firstBelow, bind, EStateM.bind] at h
  cases hFirst : firstFile tree.probe (places bases names) state with
  | error error left => rw [hFirst] at h; cases h
  | ok found left =>
      rw [hFirst] at h
      cases found with
      | none => cases h
      | some pair =>
          cases h
          obtain ⟨hName, hHolds⟩ :=
            holds_of_firstFile (fun place hPlace => (mem_places.mp hPlace).1) hFirst
          obtain ⟨place, hPlace, rfl⟩ := List.mem_map.mp hName
          exact ⟨(mem_places.mp hPlace).2, hHolds⟩

/-- A name is refused, with its base and its path, exactly if it leaves the place where
it starts. Nothing is looked at then. -/
private theorem readBelow_eq_outsideBase_iff {base : Path} {name : String}
    (probe : Probe σ) (state : σ) :
    readBelow probe base name state =
        .error (.outsideBase base (base.join (Path.ofString name))) state ↔
      Path.Escapes (Path.ofString name).steps := by
  rw [← Path.confine_eq_none_iff base]
  unfold readBelow
  cases hPath : base.confine (Path.ofString name) with
  | none => exact ⟨fun _ => rfl, fun _ => rfl⟩
  | some path =>
      refine ⟨fun h => ?_, fun h => by cases h⟩
      simp only at h
      generalize probe path state = looked at h
      obtain ⟨status, after⟩ := looked
      cases hFile : status.isFile with
      | false => simp [hFile] at h
      | true => cases hText : status.readText <;> simp [hFile, hText] at h

/-- Names are confined to the base directories. A name is refused exactly if it goes to
the root or climbs above the place where it starts, whatever the base; otherwise it
leads from the base down the ordinary names of its normal form. So the loader depends on
nothing but what stands at a base followed by ordinary names, and every text that it
answers with is that of a file found by going down such names from a base. -/
theorem directories_confined (bases : List Path) :
    (∀ (base : Path) (name : String),
      (base.confine (Path.ofString name) = none ↔
        Path.Escapes (Path.ofString name).steps) ∧
      (∀ (probe : Probe σ) (state : σ),
        readBelow probe base name state =
            .error (.outsideBase base (base.join (Path.ofString name))) state ↔
          Path.Escapes (Path.ofString name).steps) ∧
      ∀ path, base.confine (Path.ofString name) = some path →
        path.steps = base.steps ++ (Path.ofString name).normal.map .down ∧
          ∀ part ∈ (Path.ofString name).normal, Path.IsName part) ∧
    (∀ probe other : Probe σ, (∀ path, IsBelow bases path → probe path = other path) →
      directories probe bases = directories other bases) ∧
    (∀ (tree : FileTree) (name text : String) (state after : σ),
      (directories tree.probe bases).load name state = .ok text after →
        Holds tree bases name text) ∧
    ∀ (tree : FileTree) (names : List String) (name text : String) (state after : σ),
      (directories tree.probe bases).loadFirst names state = .ok (name, text) after →
        name ∈ names ∧ Holds tree bases name text := by
  refine ⟨fun base name => ⟨?_, ?_, ?_⟩, fun _ _ => directories_congr, ?_, ?_⟩
  · exact Path.confine_eq_none_iff base (Path.ofString name)
  · exact readBelow_eq_outsideBase_iff
  · exact fun path hPath => ⟨Path.steps_of_confine hPath,
      fun _ => Path.isName_of_mem_normal⟩
  · intro tree name text state after h
    have hLoad : (firstBelow tree.probe bases [name] >>=
        fun found => pure found.2) state =
      EStateM.Result.ok text after := h
    simp only [bind, EStateM.bind] at hLoad
    cases hFirst : firstBelow tree.probe bases [name] state with
    | error error left => rw [hFirst] at hLoad; cases hLoad
    | ok found left =>
        rw [hFirst] at hLoad
        cases hLoad
        obtain ⟨hName, hHolds⟩ := exists_file_of_firstBelow hFirst
        rw [List.mem_singleton.mp hName] at hHolds
        exact hHolds
  · exact fun tree names name text state after h => exists_file_of_firstBelow h

/-- A name with a detour in it, below a base whose text ends in a dot. -/
theorem directories_confined_of_detour :
    let tree : FileTree :=
  .directory [("site", .directory [("b.html", .file "B".toUTF8)])]
    let base := Path.ofString "site/."
    let name := "a/./../b.html"
    base.confine (Path.ofString name) = some ⟨["site", "b.html"]⟩ ∧
      (⟨["site", "b.html"]⟩ : Path).steps =
        base.steps ++ (Path.ofString name).normal.map .down ∧
      (directories tree.probe [base]).load name () = .ok "B" () ∧
        Holds tree [base] name "B" := by
  intro tree base name
  have hPath : base.confine (Path.ofString name) = some ⟨["site", "b.html"]⟩ := by cbv
  have hLoad : (directories tree.probe [base]).load name () = .ok "B" () := by cbv
  obtain ⟨hNames, -, hTree, -⟩ := directories_confined [base]
  exact ⟨hPath, ((hNames base name).2.2 _ hPath).1, hLoad,
    hTree tree name "B" () () hLoad⟩

end Loader

end TextTemplate
