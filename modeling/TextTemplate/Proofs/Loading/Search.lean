import Mathlib
import TextTemplate.Proofs.List
import TextTemplate.Proofs.Loading.Unchanging

/-!
# How files are searched for

A loader of files has two dimensions to search: the base directories and, where the
first of several templates is wanted, their names. It takes the base directories one by
one and tries all names below one of them before it goes on to the next, so an early
name does not win over an early directory. Two things end a search: a name that leads
out of its base directory, and a file, whether its text can be read or not.

The loader is defined by one loop over all places. Here it is compared with the loops
that one would write for each of its tasks: a loop over the directories for one name,
and a loop over the names in a loop over the directories for several. While the files
stay as they are, what ends a search is a property of the place alone, the `verdict` on
it, and the search comes down to the first verdict in the order of the places. From this
follows what whoever keeps templates by name has to rely on: a source that was found for
one of several names is the source of that name.

## Main results

* `Loader.directories_eq_searching` — the one loop and the nested ones.
* `Loader.directories_eq_ofLoad` — one base directory: names may be tried one by one.
* `Loader.coherent_directories` — files that stay as they are make a coherent loader.
* `Loader.directories_search` — the first verdict decides.
-/

namespace TextTemplate

namespace Loader

variable {σ : Type}

/-! ## The loops, one for each task -/

/-- The text of a file of a name below the first of several base directories that
has one. -/
def searchBases (probe : Probe σ) (name : String) :
    List Path → EStateM Error σ (Option String)
  | [] => return none
  | base :: rest => do
    match ← readBelow probe base name with
    | some text => return some text
    | none => searchBases probe name rest

/-- The first of several names that is a file below a base directory, with its text. -/
def searchNames (probe : Probe σ) (base : Path) :
    List String → EStateM Error σ (Option (String × String))
  | [] => return none
  | name :: rest => do
    match ← readBelow probe base name with
    | some text => return some (name, text)
    | none => searchNames probe base rest

/-- The first of several base directories with a file of one of the names, and the first
such name. -/
def search (probe : Probe σ) (names : List String) :
    List Path → EStateM Error σ (Option (String × String))
  | [] => return none
  | base :: rest => do
    match ← searchNames probe base names with
    | some found => return some found
    | none => search probe names rest

/-- The loader made of these loops. -/
def searching (probe : Probe σ) (bases : List Path) : Loader σ where
  load name := do
    match ← searchBases probe name bases with
    | some text => return text
    | none => throw (.notFound [name] (some (showBases bases)))
  loadFirst names := do
    match ← search probe names bases with
    | some found => return found
    | none => throw (.notFound names (some (showBases bases)))

/-- All names below the first base directory come first. -/
theorem places_cons (base : Path) (rest : List Path) (names : List String) :
    places (base :: rest) names = (names.map fun name => (base, name)) ++
      places rest names :=
  rfl

/-- A search through two rows of places goes through the first and then, if need be,
through the second. -/
private theorem firstFile_append (probe : Probe σ)
    (first second : List (Path × String)) :
    firstFile probe (first ++ second) = (do
      match ← firstFile probe first with
      | some found => return some found
      | none => firstFile probe second) := by
  induction first with
  | nil => rfl
  | cons place rest ih =>
      obtain ⟨base, name⟩ := place
      funext state
      simp only [List.cons_append, firstFile, bind, EStateM.bind, ih]
      cases readBelow probe base name state with
      | error error left => rfl
      | ok found left => cases found <;> rfl

/-- All places below one base directory. -/
private theorem firstFile_map (probe : Probe σ) (base : Path) (names : List String) :
    firstFile probe (names.map fun name => (base, name)) =
      searchNames probe base names := by
  induction names with
  | nil => rfl
  | cons name rest ih =>
      rw [List.map_cons, firstFile, searchNames]
      refine bind_congr fun found => ?_
      cases found with
      | some text => rfl
      | none => exact ih

/-- All places. -/
theorem firstFile_places (probe : Probe σ) (bases : List Path) (names : List String) :
    firstFile probe (places bases names) = search probe names bases := by
  induction bases with
  | nil => rfl
  | cons base rest ih => rw [places_cons, firstFile_append, firstFile_map, ih, search]

/-- All places of a single name. -/
theorem firstFile_places_singleton (probe : Probe σ) (bases : List Path)
    (name : String) :
    firstFile probe (places bases [name]) = (do
      match ← searchBases probe name bases with
      | some text => return some (name, text)
      | none => return none) := by
  induction bases with
  | nil => rfl
  | cons base rest ih =>
      funext state
      simp only [places_cons, List.map_cons, List.map_nil, List.singleton_append,
        firstFile, searchBases, ih, bind, EStateM.bind]
      cases readBelow probe base name state with
      | error error left => rfl
      | ok found left => cases found <;> rfl

/-- The loader of files goes through its places as the loops do, also where files change
under way. -/
theorem directories_eq_searching (probe : Probe σ) (bases : List Path) :
    directories probe bases = searching probe bases := by
  have hFirst : firstBelow probe bases = (searching probe bases).loadFirst := by
    funext names
    rw [firstBelow, firstFile_places]
    rfl
  have hLoad : (directories probe bases).load = (searching probe bases).load := by
    funext name state
    simp only [directories, firstBelow, firstFile_places_singleton, searching, bind,
      EStateM.bind]
    cases searchBases probe name bases state with
    | error error left => rfl
    | ok found left => cases found <;> rfl
  show (⟨(directories probe bases).load, firstBelow probe bases⟩ : Loader σ) = _
  rw [hLoad, hFirst]

/-! ## One name, and one base directory -/

/-- Below a base directory it is never said that a template is missing. -/
private theorem isNotFound_of_readBelow {probe : Probe σ} {base : Path} {name : String}
    {state left : σ} {error : Error}
    (h : readBelow probe base name state = .error error left) :
    error.isNotFound = false := by
  unfold readBelow at h
  cases hPath : base.confine (Path.ofString name) with
  | none =>
      rw [hPath] at h
      cases h
      rfl
  | some path =>
      simp only [hPath] at h
      generalize probe path state = looked at h
      obtain ⟨status, after⟩ := looked
      cases hFile : status.isFile with
      | false => simp [hFile] at h
      | true =>
          cases hText : status.readText with
          | ok text => simp [hFile, hText] at h
          | error failure =>
              simp only [hFile, hText, if_true, EStateM.Result.error.injEq] at h
              rw [← h.1]
              rfl

/-- Loading a name is loading the first of this name alone. -/
private theorem loadFirst_singleton (probe : Probe σ) (bases : List Path)
    (name : String) :
    (directories probe bases).loadFirst [name] = (do
      let text ← (directories probe bases).load name
      return (name, text)) := by
  rw [directories_eq_searching]
  have hSearch : search probe [name] bases = (do
      match ← searchBases probe name bases with
      | some text => return some (name, text)
      | none => return none) := by
    rw [← firstFile_places, firstFile_places_singleton]
  funext state
  simp only [searching, hSearch, bind, EStateM.bind]
  cases searchBases probe name bases state with
  | error error left => rfl
  | ok found left => cases found <;> rfl

/-- The names below one base directory are tried one by one. -/
private theorem firstLoaded_eq_searchNames (probe : Probe σ) (base : Path)
    (names : List String) :
    firstLoaded (directories probe [base]).load names =
      searchNames probe base names := by
  rw [directories_eq_searching]
  induction names with
  | nil => rfl
  | cons name rest ih =>
      funext state
      simp only [firstLoaded, searching, searchBases, searchNames, bind, EStateM.bind,
        pure]
      cases hRead : readBelow probe base name state with
      | error error left => simp [isNotFound_of_readBelow hRead]
      | ok found left =>
          cases found with
          | some text => rfl
          | none => exact congrFun ih left

/-- With a single base directory the loader may as well try the names one by one. -/
theorem directories_eq_ofLoad (probe : Probe σ) (base : Path) :
    directories probe [base] =
      ofLoad (showBases [base]) (directories probe [base]).load := by
  have hFirst : firstBelow probe [base] =
      (ofLoad (showBases [base]) (directories probe [base]).load).loadFirst := by
    funext names state
    simp only [firstBelow, firstFile_places, search, ofLoad, firstLoaded_eq_searchNames,
      bind, EStateM.bind]
    cases searchNames probe base names state with
    | error error left => rfl
    | ok found left => cases found <;> rfl
  show (⟨(directories probe [base]).load, firstBelow probe [base]⟩ : Loader σ) = _
  rw [hFirst]
  rfl

/-! ## The first verdict -/

/-- What a name below a base directory decides, if it decides anything: a name that
leads out of the directory is refused, and a file answers with its text, or with the
reason why it has none. -/
def verdict (look : Path → FileStatus) (base : Path) (name : String) :
    Option (Except Error (String × String)) :=
  match base.confine (Path.ofString name) with
  | none => some (.error (.outsideBase base (base.join (Path.ofString name))))
  | some path =>
    if (look path).isFile then
      match (look path).readText with
      | .ok text => some (.ok (name, text))
      | .error failure => some (.error (.unreadable path failure))
    else none

/-- A file's text is found under the name that was asked for. -/
theorem name_of_verdict {look : Path → FileStatus} {base : Path}
    {name found text : String} (h : verdict look base name = some (.ok (found, text))) :
    name = found := by
  unfold verdict at h
  cases hPath : base.confine (Path.ofString name) with
  | none => rw [hPath] at h; cases h
  | some path =>
      simp only [hPath] at h
      split at h
      · split at h <;> cases h
        rfl
      · cases h

/-- The first verdict on a row of places. -/
def firstVerdict (look : Path → FileStatus) (places : List (Path × String)) :
    Option (Except Error (String × String)) :=
  places.findSome? fun place => verdict look place.1 place.2

/-- The first verdict in lexicographic order is the one on the base directory at `row`
and the name at `column`: no earlier directory has a verdict on any name, and this one
has none on an earlier name. -/
def FirstAt (look : Path → FileStatus) (bases : List Path) (names : List String)
    (row column : Nat) (answer : Except Error (String × String)) : Prop :=
  (∃ base name, bases[row]? = some base ∧ names[column]? = some name ∧
    verdict look base name = some answer) ∧
  ∀ i j base name, i < row ∨ i = row ∧ j < column → bases[i]? = some base →
    names[j]? = some name → verdict look base name = none

/-- The places are in lexicographic order. -/
theorem firstVerdict_places_eq_some_iff {look : Path → FileStatus} {bases : List Path}
    {names : List String} {answer : Except Error (String × String)} :
    firstVerdict look (places bases names) = some answer ↔
      ∃ row column, FirstAt look bases names row column answer := by
  have hRows : firstVerdict look (places bases names) =
      bases.findSome? fun base => names.findSome? (verdict look base) := by
    induction bases with
    | nil => rfl
    | cons base rest ih =>
        rw [places_cons, firstVerdict, List.findSome?_append, List.findSome?_map,
          List.findSome?_cons, ← ih]
        show (names.findSome? (verdict look base)).or _ = _
        cases names.findSome? (verdict look base) <;> rfl
  rw [hRows, findSome?_eq_some_iff_getElem?]
  constructor
  · rintro ⟨row, base, hBase, hHit, hBefore⟩
    obtain ⟨column, name, hName, hVerdict, hEarlier⟩ :=
      findSome?_eq_some_iff_getElem?.mp hHit
    refine ⟨row, column, ⟨base, name, hBase, hName, hVerdict⟩,
      fun i j above other hOrder hAbove hOther => ?_⟩
    rcases hOrder with hRow | ⟨rfl, hColumn⟩
    · exact List.findSome?_eq_none_iff.mp (hBefore i above hRow hAbove) other
        (List.mem_of_getElem? hOther)
    · rw [hBase] at hAbove
      cases hAbove
      exact hEarlier j other hColumn hOther
  · rintro ⟨row, column, ⟨base, name, hBase, hName, hVerdict⟩, hBefore⟩
    refine ⟨row, base, hBase, findSome?_eq_some_iff_getElem?.mpr
      ⟨column, name, hName, hVerdict, fun j other hj hOther =>
        hBefore row j base other (.inr ⟨rfl, hj⟩) hBase hOther⟩,
          fun i above hRow hAbove => ?_⟩
    refine List.findSome?_eq_none_iff.mpr fun other hOther => ?_
    obtain ⟨j, hj⟩ := List.getElem?_of_mem hOther
    exact hBefore i j above other (.inl hRow) hAbove hj

/-- The way to look paths up while nothing changes. For a directory tree it
is `FileTree.probe`. -/
def unchanging (look : Path → FileStatus) : Probe σ := fun path =>
  pure (look path)

variable (look : Path → FileStatus)

/-- Reading below a base directory is asking for the verdict on a place. -/
theorem readBelow_unchanging (base : Path) (name : String) :
    (readBelow (unchanging look) base name : EStateM Error σ (Option String)) =
      match verdict look base name with
      | none => pure none
      | some (.ok (_, text)) => pure (some text)
      | some (.error error) => throw error := by
  unfold readBelow verdict
  cases hPath : base.confine (Path.ofString name) with
  | none => rfl
  | some path =>
      funext state
      simp only [unchanging, pure, StateT.pure]
      cases hFile : (look path).isFile with
      | false => rfl
      | true => cases hText : (look path).readText <;> rfl

/-- The first verdict ends a search. -/
theorem firstFile_unchanging (places : List (Path × String)) :
    (firstFile (unchanging look) places : EStateM Error σ (Option (String × String))) =
      match firstVerdict look places with
      | none => pure none
      | some answer => some <$> MonadExcept.ofExcept answer := by
  induction places with
  | nil => rfl
  | cons place rest ih =>
      obtain ⟨base, name⟩ := place
      rw [firstFile, readBelow_unchanging, firstVerdict, List.findSome?_cons]
      cases hVerdict : verdict look base name with
      | none => exact ih
      | some answer =>
          cases answer with
          | error error => rfl
          | ok found =>
              obtain ⟨asked, text⟩ := found
              rw [name_of_verdict hVerdict]
              rfl

/-- The first of several names is what the first verdict says, and is missing without
a verdict. -/
theorem loadFirst_unchanging (bases : List Path) (names : List String) :
    ((directories (unchanging look) bases).loadFirst names :
      EStateM Error σ (String × String)) =
      match firstVerdict look (places bases names) with
      | none => throw (.notFound names (some (showBases bases)))
      | some answer => MonadExcept.ofExcept answer := by
  show firstBelow (unchanging look) bases names = _
  rw [firstBelow, firstFile_unchanging]
  cases firstVerdict look (places bases names) with
  | none => rfl
  | some answer => cases answer <;> rfl

/-- A source that was found for one of several names is the source of that name: a
directory that was passed over had no verdict on it. -/
private theorem firstVerdict_singleton {bases : List Path} {names : List String}
    {name source : String}
    (h : firstVerdict look (places bases names) = some (.ok (name, source))) :
    firstVerdict look (places bases [name]) = some (.ok (name, source)) := by
  obtain ⟨row, column, ⟨base, asked, hBase, hAsked, hVerdict⟩, hBefore⟩ :=
    firstVerdict_places_eq_some_iff.mp h
  have hName := name_of_verdict hVerdict
  subst hName
  refine firstVerdict_places_eq_some_iff.mpr ⟨row, 0,
    ⟨base, asked, hBase, rfl, hVerdict⟩, ?_⟩
  intro i j above other hOrder hAbove hOther
  rcases hOrder with hRow | ⟨-, hColumn⟩
  · obtain ⟨-, rfl⟩ : j = 0 ∧ asked = other := by
      cases j with
      | zero => exact ⟨rfl, Option.some.inj hOther⟩
      | succ j => cases hOther
    exact hBefore i column above asked (.inl hRow) hAbove hAsked
  · omega

/-- One name is what the first verdict on it says, without the name. -/
theorem load_unchanging (bases : List Path) (name : String) :
    ((directories (unchanging look) bases).load name : EStateM Error σ String) =
      match firstVerdict look (places bases [name]) with
      | none => throw (.notFound [name] (some (showBases bases)))
      | some answer => Prod.snd <$> MonadExcept.ofExcept answer := by
  have hFirst := loadFirst_unchanging (σ := σ) look bases [name]
  show ((directories (unchanging look) bases).loadFirst [name] >>=
    fun found => pure found.2) = _
  rw [hFirst]
  cases firstVerdict look (places bases [name]) with
  | none => rfl
  | some answer => cases answer <;> rfl

/-- Whatever is found for one of several names is what loading this name gives. -/
theorem load_of_loadFirst {bases : List Path} {names : List String}
    {name source : String} {state after : σ}
    (h : (directories (unchanging look) bases).loadFirst names state =
      .ok (name, source) after) (other : σ) :
    (directories (unchanging look) bases).load name other = .ok source other := by
  rw [loadFirst_unchanging] at h
  cases hVerdict : firstVerdict look (places bases names) with
  | none => rw [hVerdict] at h; cases h
  | some answer =>
      rw [hVerdict] at h
      cases answer with
      | error error => cases h
      | ok found =>
          cases h
          rw [load_unchanging, firstVerdict_singleton look hVerdict]
          rfl

/-- Files that stay as they are make a coherent loader. -/
theorem coherent_directories (bases : List Path) :
    (directories (unchanging look) bases : Loader σ).Coherent := by
  refine ⟨fun name first second => ?_, fun names first second => ?_,
    fun {names state name source} h => ?_⟩
  · rw [load_unchanging]
    cases firstVerdict look (places bases [name]) with
    | none => rfl
    | some answer => cases answer <;> rfl
  · rw [loadFirst_unchanging]
    cases firstVerdict look (places bases names) with
    | none => rfl
    | some answer => cases answer <;> rfl
  · unfold answer at h
    split at h
    · rename_i found after hFound
      cases h
      rw [answer, load_of_loadFirst look hFound state]
    · cases h

/-- Files are searched for as the nested loops do it. While they stay as they are, the
first place in lexicographic order of base directories and names on which there is a
verdict decides what is found for several names, and without such a place all of them
are missing. Loading one name is loading the first of this name alone; with a single
base directory names may be tried one by one, any missing one being passed over; and a
source that was found for one of several names is what loading this name gives. -/
theorem directories_search (look : Path → FileStatus) (bases : List Path) :
    let loader : Loader σ := directories (unchanging look) bases
    loader = searching (unchanging look) bases ∧
    (∀ names,
      (∃ row column answer, FirstAt look bases names row column answer ∧
        loader.loadFirst names = MonadExcept.ofExcept answer) ∨
      ((∀ base ∈ bases, ∀ name ∈ names, verdict look base name = none) ∧
        loader.loadFirst names = throw (.notFound names (some (showBases bases))))) ∧
    (∀ name, loader.loadFirst [name] = (do
      let text ← loader.load name
      return (name, text))) ∧
    (∀ base names, bases = [base] →
      loader.loadFirst names = (ofLoad (showBases bases) loader.load).loadFirst names) ∧
    ∀ names name source state after,
      loader.loadFirst names state = .ok (name, source) after →
      ∀ other, loader.load name other = .ok source other := by
  intro loader
  refine ⟨directories_eq_searching _ bases, fun names => ?_,
    loadFirst_singleton _ bases, ?_, ?_⟩
  · have hLoad := loadFirst_unchanging (σ := σ) look bases names
    cases hVerdict : firstVerdict look (places bases names) with
    | some answer =>
        obtain ⟨row, column, hAt⟩ := firstVerdict_places_eq_some_iff.mp hVerdict
        rw [hVerdict] at hLoad
        exact .inl ⟨row, column, answer, hAt, hLoad⟩
    | none =>
        rw [hVerdict] at hLoad
        refine .inr ⟨fun base hBase name hName => ?_, hLoad⟩
        exact List.findSome?_eq_none_iff.mp hVerdict (base, name)
          (List.mem_flatMap.mpr ⟨base, hBase, List.mem_map.mpr ⟨name, hName, rfl⟩⟩)
  · rintro base names rfl
    exact congrFun (congrArg Loader.loadFirst
      (directories_eq_ofLoad (unchanging look) base)) names
  · exact fun names name source state after h other => load_of_loadFirst look h other

/-- An early name does not win over an early directory: `x.html` stands below the second
one only. -/
theorem directories_search_of_later_name :
    let tree : FileTree := .directory
      [("one", .directory [("y.html", .file "first".toUTF8)]),
        ("two", .directory [("x.html", .file "X".toUTF8),
          ("y.html", .file "second".toUTF8)])]
    let loader : Loader Unit :=
      directories tree.probe [Path.ofString "one", Path.ofString "two"]
    loader.loadFirst ["x.html", "y.html"] () = .ok ("y.html", "first") () ∧
      loader.load "y.html" () = .ok "first" () := by
  intro tree loader
  have hFirst : loader.loadFirst ["x.html", "y.html"] () =
      .ok ("y.html", "first") () := by cbv
  obtain ⟨-, -, -, -, hSource⟩ :=
    directories_search (σ := Unit) tree.look [Path.ofString "one", Path.ofString "two"]
  exact ⟨hFirst, hSource _ _ _ _ _ hFirst ()⟩

end Loader

end TextTemplate
