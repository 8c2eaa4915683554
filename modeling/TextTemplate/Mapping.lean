/-!
# Mappings from names

Scopes, registries and the mappings among template values hold named entries in
ascending order of their names, where texts are ordered by code points. Entries are
plain association lists, so that values may nest them; `Mapping` adds the promise that
the names ascend, which makes the list of entries a canonical form: two mappings with
the same look-ups are equal.
-/

namespace TextTemplate

/-- Named entries. -/
abbrev Entries (α : Type) := List (String × α)

namespace Entries

variable {α β : Type}

/-- The value of the first entry with a name. -/
def get? : Entries α → String → Option α
  | [], _ => none
  | (key, value) :: rest, name => if key = name then some value else get? rest name

/-- Binds a name, in place of an earlier binding of the same name. -/
def insert : Entries α → String → α → Entries α
  | [], name, value => [(name, value)]
  | (key, old) :: rest, name, value =>
    if name < key then (name, value) :: (key, old) :: rest
    else if name = key then (name, value) :: rest
    else (key, old) :: insert rest name value

/-- Removes the binding of a name. -/
def erase : Entries α → String → Entries α
  | [], _ => []
  | (key, value) :: rest, name =>
    if key = name then erase rest name else (key, value) :: erase rest name

/-- The names, in order. -/
def keys (entries : Entries α) : List String :=
  entries.map Prod.fst

/-- The names ascend, so each occurs once. -/
def Ascending (entries : Entries α) : Prop :=
  entries.keys.Pairwise (· < ·)

/-- Binds the names of a list in its order, so that the last binding of a name
stands. -/
def ofList (pairs : List (String × α)) : Entries α :=
  pairs.foldl (fun entries pair => entries.insert pair.1 pair.2) []

/-! ## Order -/

theorem ascending_nil : Ascending ([] : Entries α) :=
  List.Pairwise.nil

theorem ascending_cons {key : String} {value : α} {rest : Entries α} :
    Ascending ((key, value) :: rest) ↔ (∀ name ∈ rest.keys, key < name) ∧
      Ascending rest := by
  simp [Ascending, keys, List.pairwise_cons]

theorem mem_keys_insert {entries : Entries α} {name key : String} {value : α}
    (h : key ∈ (entries.insert name value).keys) : key = name ∨ key ∈ entries.keys := by
  induction entries with
  | nil => simpa [insert, keys] using h
  | cons entry rest ih =>
    obtain ⟨first, old⟩ := entry
    simp only [insert] at h
    split at h
    · simpa [keys] using h
    · split at h
      · rename_i _ hName
        subst hName
        simp only [keys, List.map_cons, List.mem_cons] at h ⊢
        rcases h with h | h
        · exact Or.inl h
        · exact Or.inr (Or.inr h)
      · simp only [keys, List.map_cons, List.mem_cons] at h ⊢
        rcases h with h | h
        · exact Or.inr (Or.inl h)
        · rcases ih h with h | h
          · exact Or.inl h
          · exact Or.inr (Or.inr h)

/-- Binding a name keeps the order. -/
theorem ascending_insert {entries : Entries α} (h : entries.Ascending) (name : String)
    (value : α) :
    (entries.insert name value).Ascending := by
  induction entries with
  | nil => simp [insert, Ascending, keys]
  | cons entry rest ih =>
    obtain ⟨first, old⟩ := entry
    obtain ⟨hFirst, hRest⟩ := ascending_cons.mp h
    simp only [insert]
    split
    · rename_i hLess
      refine ascending_cons.mpr ⟨fun key hKey => ?_, h⟩
      simp only [keys, List.map_cons, List.mem_cons] at hKey
      rcases hKey with hKey | hKey
      · exact hKey ▸ hLess
      · exact String.lt_trans hLess (hFirst key hKey)
    · rename_i hNotLess
      split
      · rename_i hEqual
        exact ascending_cons.mpr ⟨fun key hKey => hEqual ▸ hFirst key hKey, hRest⟩
      · rename_i hDiffers
        refine ascending_cons.mpr ⟨fun key hKey => ?_, ih hRest⟩
        rcases mem_keys_insert hKey with hKey | hKey
        · exact hKey ▸ Std.lt_of_le_of_ne (String.not_lt.mp hNotLess)
            fun e => hDiffers e.symm
        · exact hFirst key hKey

theorem mem_keys_of_mem_keys_erase {entries : Entries α} {name key : String}
    (h : key ∈ (entries.erase name).keys) : key ∈ entries.keys := by
  induction entries with
  | nil => simpa [erase] using h
  | cons entry rest ih =>
    obtain ⟨first, old⟩ := entry
    simp only [erase] at h
    split at h
    · exact List.mem_cons_of_mem _ (ih h)
    · simp only [keys, List.map_cons, List.mem_cons] at h ⊢
      exact h.imp id ih

/-- Removing a name keeps the order. -/
theorem ascending_erase {entries : Entries α} (h : entries.Ascending) (name : String) :
    (entries.erase name).Ascending := by
  induction entries with
  | nil => exact h
  | cons entry rest ih =>
    obtain ⟨first, old⟩ := entry
    obtain ⟨hFirst, hRest⟩ := ascending_cons.mp h
    simp only [erase]
    split
    · exact ih hRest
    · exact ascending_cons.mpr
        ⟨fun key hKey => hFirst key (mem_keys_of_mem_keys_erase hKey), ih hRest⟩

/-- The entries of a list are in order. -/
theorem ascending_ofList (pairs : List (String × α)) : (ofList pairs).Ascending := by
  suffices ∀ (pairs : List (String × α)) (start : Entries α), start.Ascending →
      Ascending (pairs.foldl (fun entries pair => entries.insert pair.1 pair.2)
        start) from
    this pairs [] ascending_nil
  intro pairs
  induction pairs with
  | nil => exact fun _ h => h
  | cons pair rest ih => exact fun start h => ih _ (ascending_insert h pair.1 pair.2)

/-! ## Look-up -/

@[simp] theorem get?_nil (name : String) : get? ([] : Entries α) name = none := rfl

theorem get?_cons (key : String) (value : α) (rest : Entries α) (name : String) :
    get? ((key, value) :: rest) name = if key = name then some value
      else get? rest name :=
  rfl

/-- A look-up after a binding. -/
@[simp] theorem get?_insert (entries : Entries α) (name : String) (value : α)
    (key : String) :
    (entries.insert name value).get? key = if name = key then some value
      else entries.get? key := by
  induction entries with
  | nil => rfl
  | cons entry rest ih =>
    obtain ⟨first, old⟩ := entry
    simp only [insert]
    split
    · rfl
    · split
      · rename_i _ hEqual
        subst hEqual
        simp only [get?_cons]
        split <;> rfl
      · rename_i hDiffers
        simp only [get?_cons, ih]
        by_cases hKey : first = key
        · subst hKey
          simp [hDiffers]
        · simp [hKey]

/-- A look-up after a removal. -/
@[simp] theorem get?_erase (entries : Entries α) (name key : String) :
    (entries.erase name).get? key = if name = key then none else entries.get? key := by
  induction entries with
  | nil => simp [erase]
  | cons entry rest ih =>
    obtain ⟨first, old⟩ := entry
    simp only [erase]
    split
    · rename_i hEqual
      subst hEqual
      simp only [ih, get?_cons]
      split <;> rfl
    · rename_i hDiffers
      simp only [get?_cons, ih]
      by_cases hKey : first = key
      · subst hKey
        simp [Ne.symm hDiffers]
      · simp [hKey]

/-- A look-up among the bindings of a list in which no name occurs twice. -/
theorem get?_ofList_eq_some_iff {pairs : List (String × α)}
    (h : (pairs.map Prod.fst).Nodup) {name : String} {value : α} :
    (ofList pairs).get? name = some value ↔ (name, value) ∈ pairs := by
  suffices ∀ start : Entries α,
      get? (pairs.foldl (fun entries pair => entries.insert pair.1 pair.2) start) name =
        some value ↔
        (name, value) ∈ pairs ∨ name ∉ pairs.map Prod.fst ∧
          start.get? name = some value by
    simpa [ofList] using this []
  induction pairs with
  | nil => simp
  | cons pair rest ih =>
    intro start
    obtain ⟨key, item⟩ := pair
    obtain ⟨hKey, hRest⟩ := List.nodup_cons.mp h
    rw [List.foldl_cons, ih hRest, get?_insert]
    by_cases hName : key = name
    · have hNot : (name, value) ∉ rest := by
        rw [← hName]
        exact fun hMem => hKey (List.mem_map.mpr ⟨_, hMem, rfl⟩)
      rw [hName] at hKey
      simp [hName, hNot, hKey, eq_comm]
    · simp [hName, Ne.symm hName]

end Entries

/-- Named entries whose names ascend. -/
structure Mapping (α : Type) where
  entries : Entries α
  ascending : entries.Ascending

namespace Mapping

variable {α β : Type}

/-- The mapping without entries. -/
def empty : Mapping α := ⟨[], Entries.ascending_nil⟩

instance : Inhabited (Mapping α) := ⟨empty⟩

instance : EmptyCollection (Mapping α) := ⟨empty⟩

/-- The value bound to a name. -/
def get? (mapping : Mapping α) (name : String) : Option α :=
  mapping.entries.get? name

/-- Whether a name is bound. -/
def contains (mapping : Mapping α) (name : String) : Bool :=
  (mapping.get? name).isSome

/-- Binds a name, in place of an earlier binding. -/
def insert (mapping : Mapping α) (name : String) (value : α) : Mapping α :=
  ⟨mapping.entries.insert name value,
    Entries.ascending_insert mapping.ascending name value⟩

/-- Removes the binding of a name. -/
def erase (mapping : Mapping α) (name : String) : Mapping α :=
  ⟨mapping.entries.erase name, Entries.ascending_erase mapping.ascending name⟩

/-- Binds the names of a list in its order, so that the last binding of a name
stands. -/
def ofList (pairs : List (String × α)) : Mapping α :=
  ⟨Entries.ofList pairs, Entries.ascending_ofList pairs⟩

/-- The mapping with one entry. -/
def singleton (name : String) (value : α) : Mapping α :=
  empty.insert name value

/-- The names, ascending. -/
def keys (mapping : Mapping α) : List String :=
  mapping.entries.keys

@[simp] theorem get?_empty (name : String) : (empty : Mapping α).get? name = none := rfl

@[simp] theorem get?_insert (mapping : Mapping α) (name : String) (value : α)
    (key : String) :
    (mapping.insert name value).get? key = if name = key then some value
      else mapping.get? key :=
  Entries.get?_insert _ _ _ _

@[simp] theorem get?_erase (mapping : Mapping α) (name key : String) :
    (mapping.erase name).get? key = if name = key then none else mapping.get? key :=
  Entries.get?_erase _ _ _

theorem get?_ofList_eq_some_iff {pairs : List (String × α)}
    (h : (pairs.map Prod.fst).Nodup) {name : String} {value : α} :
    (ofList pairs).get? name = some value ↔ (name, value) ∈ pairs :=
  Entries.get?_ofList_eq_some_iff h

end Mapping

end TextTemplate
