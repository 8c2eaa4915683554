import TextTemplate.Mapping

/-!
# Look-ups among entries

Entries are looked up from the front, and a list that is bound name by name keeps the
last value of each name. So the two ends of a list decide what is found in it and in the
entries made from it, and only ascending entries, in which no name occurs twice, are the
entries made from themselves.

## Main results

* `Entries.get?_ofList` — of several entries of one name the last one stands.
* `Entries.ext_get?` — ascending entries with the same look-ups are the same.
* `Entries.ofList_of_ascending` — binding ascending entries again changes nothing.
-/

namespace TextTemplate

namespace Entries

variable {α β : Type}

/-! ## Which entry is found -/

/-- A look-up goes through the first entries and then through the others. -/
theorem get?_append (first second : Entries α) (name : String) :
    get? (first ++ second) name = (first.get? name).or (second.get? name) := by
  induction first with
  | nil => rfl
  | cons entry rest ih =>
      obtain ⟨key, value⟩ := entry
      rw [List.cons_append, get?_cons, get?_cons, ih]
      by_cases hKey : key = name
      · rw [if_pos hKey, if_pos hKey, Option.some_or]
      · rw [if_neg hKey, if_neg hKey]

/-- The value that is found is that of the first entry with the name. -/
theorem get?_eq_find? (entries : Entries α) (name : String) :
    entries.get? name = (entries.find? fun entry => entry.1 == name).map Prod.snd := by
  induction entries with
  | nil => rfl
  | cons entry rest ih =>
      obtain ⟨key, value⟩ := entry
      rw [get?_cons, ih]
      by_cases hKey : key = name <;> simp [hKey]

/-- Changing the values changes what is found in the same way. -/
theorem get?_map (change : α → β) (entries : Entries α) (name : String) :
    get? (entries.map fun entry => (entry.1, change entry.2)) name =
      (entries.get? name).map change := by
  induction entries with
  | nil => rfl
  | cons entry rest ih =>
      obtain ⟨key, value⟩ := entry
      rw [List.map_cons, get?_cons, get?_cons, ih]
      by_cases hKey : key = name
      · rw [if_pos hKey, if_pos hKey, Option.map_some]
      · rw [if_neg hKey, if_neg hKey]

/-- Nothing is found exactly under the names that do not occur. -/
theorem get?_eq_none_iff {entries : Entries α} {name : String} :
    entries.get? name = none ↔ name ∉ entries.keys := by
  induction entries with
  | nil => simp [keys]
  | cons entry rest ih =>
      obtain ⟨key, value⟩ := entry
      rw [get?_cons]
      by_cases hKey : key = name
      · simp [hKey, keys]
      · rw [if_neg hKey, ih]
        simp [keys, Ne.symm hKey]

/-- Where a name occurs at most once, the entries may be searched from either end. -/
theorem get?_reverse {entries : Entries α} {name : String}
    (h : entries.keys.count name ≤ 1) :
    get? entries.reverse name = entries.get? name := by
  induction entries with
  | nil => rfl
  | cons entry rest ih =>
      obtain ⟨key, value⟩ := entry
      have hCount : (keys rest).count name + (if key = name then 1 else 0) ≤ 1 := by
        simpa [keys, List.count_cons] using h
      rw [List.reverse_cons, get?_append, get?_cons, get?_cons]
      by_cases hKey : key = name
      · have hNone : (keys rest).count name = 0 := by
          rw [if_pos hKey] at hCount
          omega
        have hRest : get? rest name = none :=
          get?_eq_none_iff.mpr (List.count_eq_zero.mp hNone)
        rw [ih (by omega), hRest, if_pos hKey, if_pos hKey, Option.none_or]
      · rw [ih (by omega), if_neg hKey, if_neg hKey, get?_nil, Option.or_none]

/-! ## Entries bound name by name -/

/-- The value of a pair for its own name. -/
def valueFor (name : String) (pair : String × α) : Option α :=
  if pair.1 = name then some pair.2 else none

private theorem get?_foldl_insert (pairs : List (String × α)) (start : Entries α)
    (name : String) :
    (pairs.foldl (fun entries pair => entries.insert pair.1 pair.2) start).get? name =
      (pairs.reverse.findSome? (valueFor name)).or (start.get? name) := by
  induction pairs generalizing start with
  | nil => rfl
  | cons pair rest ih =>
      obtain ⟨key, value⟩ := pair
      rw [List.foldl_cons, ih, List.reverse_cons, List.findSome?_append, get?_insert,
        Option.or_assoc]
      congr 1
      by_cases hKey : key = name
      · simp [valueFor, hKey]
      · simp [valueFor, hKey]

/-- Of several entries of one name the last one stands. -/
theorem get?_ofList (pairs : List (String × α)) (name : String) :
    (ofList pairs).get? name = pairs.reverse.findSome? (valueFor name) := by
  rw [ofList, get?_foldl_insert, get?_nil, Option.or_none]

/-- The first value for a name is what is found under it. -/
theorem findSome?_valueFor (pairs : Entries α) (name : String) :
    pairs.findSome? (valueFor name) = pairs.get? name := by
  induction pairs with
  | nil => rfl
  | cons pair rest ih =>
      obtain ⟨key, value⟩ := pair
      rw [get?_cons, List.findSome?_cons, ih, valueFor]
      by_cases hKey : key = name
      · rw [if_pos hKey, if_pos hKey]
      · rw [if_neg hKey, if_neg hKey]

/-! ## Ascending entries -/

/-- What is found under a name is one of the entries. -/
theorem mem_of_get?_eq_some {entries : Entries α} {name : String} {value : α}
    (h : entries.get? name = some value) : (name, value) ∈ entries := by
  induction entries with
  | nil => cases h
  | cons entry rest ih =>
      obtain ⟨key, first⟩ := entry
      rw [get?_cons] at h
      split at h
      · rename_i hKey
        cases h
        rw [hKey]
        exact List.mem_cons_self
      · exact List.mem_cons_of_mem _ (ih h)

/-- Behind the first of ascending entries its name does not occur, nor does a
smaller one. -/
theorem get?_eq_none_of_ascending {key name : String} {value : α} {rest : Entries α}
    (h : Ascending ((key, value) :: rest)) (hName : ¬ key < name) :
    rest.get? name = none := by
  cases hFound : rest.get? name with
  | none => rfl
  | some found =>
      have hMem : name ∈ rest.keys :=
        List.mem_map.mpr ⟨_, mem_of_get?_eq_some hFound, rfl⟩
      exact absurd ((ascending_cons.mp h).1 name hMem) hName

/-- No name that occurs among ascending entries is smaller than the first one. -/
private theorem not_lt_of_get?_ne_none {key other : String} {value : α}
    {rest : Entries α} (h : Ascending ((key, value) :: rest))
    (hOther : get? ((key, value) :: rest) other ≠ none) :
    ¬ other < key := by
  intro hLess
  rw [get?_cons, if_neg fun hSame => String.lt_irrefl _ (hSame ▸ hLess)] at hOther
  exact hOther (get?_eq_none_of_ascending h (String.lt_asymm hLess))

/-- Ascending entries with the same look-ups are the same. -/
theorem ext_get? {first second : Entries α} (hFirst : first.Ascending)
    (hSecond : second.Ascending) (h : ∀ name, first.get? name = second.get? name) :
    first = second := by
  induction first generalizing second with
  | nil =>
      cases second with
      | nil => rfl
      | cons entry rest =>
          obtain ⟨key, value⟩ := entry
          simpa [get?_cons] using h key
  | cons entry rest ih =>
      obtain ⟨key, value⟩ := entry
      cases second with
      | nil => simpa [get?_cons] using h key
      | cons entry others =>
          obtain ⟨other, otherValue⟩ := entry
          have hKey := h key
          have hOther := h other
          have hNotLess : ¬ other < key :=
            not_lt_of_get?_ne_none hFirst
              (by rw [hOther, get?_cons, if_pos rfl]; exact Option.some_ne_none _)
          have hNotGreater : ¬ key < other :=
            not_lt_of_get?_ne_none hSecond
              (by rw [← hKey, get?_cons, if_pos rfl]; exact Option.some_ne_none _)
          have hSame : key = other :=
            String.le_antisymm (String.not_lt.mp hNotLess)
              (String.not_lt.mp hNotGreater)
          subst hSame
          rw [get?_cons, get?_cons, if_pos rfl, if_pos rfl, Option.some.injEq] at hKey
          subst hKey
          congr 1
          refine ih (ascending_cons.mp hFirst).2 (ascending_cons.mp hSecond).2
            fun name => ?_
          by_cases hName : key = name
          · subst hName
            rw [get?_eq_none_of_ascending hFirst (String.lt_irrefl _),
              get?_eq_none_of_ascending hSecond (String.lt_irrefl _)]
          · have hRest := h name
            rwa [get?_cons, get?_cons, if_neg hName, if_neg hName] at hRest

/-- No name occurs twice among ascending entries. -/
theorem nodup_of_ascending {entries : Entries α} (h : entries.Ascending) :
    entries.keys.Nodup := by
  refine List.Pairwise.imp ?_ h
  rintro first second hLess rfl
  exact String.lt_irrefl first hLess

/-- Binding ascending entries one after the other gives them back. -/
theorem ofList_of_ascending {entries : Entries α} (h : entries.Ascending) :
    ofList entries = entries := by
  refine ext_get? (ascending_ofList entries) h fun name => ?_
  rw [get?_ofList, findSome?_valueFor,
    get?_reverse (List.nodup_iff_count.mp (nodup_of_ascending h) name)]

/-- Each of ascending entries is what is found under its name. -/
theorem get?_of_mem {entries : Entries α} (h : entries.Ascending) {entry : String × α}
    (hEntry : entry ∈ entries) : entries.get? entry.1 = some entry.2 := by
  have hFound : (ofList entries).get? entry.1 = some entry.2 :=
    (get?_ofList_eq_some_iff (nodup_of_ascending h)).mpr hEntry
  rwa [ofList_of_ascending h] at hFound

/-! ## Where entries come from -/

private theorem mem_of_mem_insert {entries : Entries α} {name : String} {value : α}
    {entry : String × α} (h : entry ∈ entries.insert name value) :
    entry = (name, value) ∨ entry ∈ entries := by
  induction entries with
  | nil => exact .inl (List.mem_singleton.mp h)
  | cons first rest ih =>
      obtain ⟨key, old⟩ := first
      simp only [insert] at h
      split at h
      · exact List.mem_cons.mp h
      · split at h
        · exact (List.mem_cons.mp h).imp_right (List.mem_cons_of_mem _)
        · rcases List.mem_cons.mp h with rfl | hRest
          · exact .inr List.mem_cons_self
          · exact (ih hRest).imp_right (List.mem_cons_of_mem _)

/-- Binding the names of a list brings no entries but those of the list. -/
theorem mem_of_mem_ofList {pairs : List (String × α)} {entry : String × α}
    (h : entry ∈ ofList pairs) : entry ∈ pairs := by
  suffices hFold : ∀ start : Entries α,
      entry ∈ pairs.foldl (fun entries pair => entries.insert pair.1 pair.2) start →
        entry ∈ pairs ∨ entry ∈ start from (hFold [] h).resolve_right List.not_mem_nil
  clear h
  induction pairs with
  | nil => exact fun start hStart => .inr hStart
  | cons pair rest ih =>
      intro start hMem
      rcases ih _ hMem with hRest | hInsert
      · exact .inl (List.mem_cons_of_mem _ hRest)
      · exact (mem_of_mem_insert hInsert).imp_left
          fun hPair => List.mem_cons.mpr (.inl hPair)

end Entries

/-- What is found after a name was taken was found before, under another name. -/
theorem Mapping.get?_of_erase {α : Type} {mapping : Mapping α} {name key : String}
    {value : α} (h : (mapping.erase name).get? key = some value) :
    mapping.get? key = some value ∧ name ≠ key := by
  rw [get?_erase] at h
  split at h
  · cases h
  · rename_i hOther
    exact ⟨h, hOther⟩

/-- Mappings with the same look-ups are the same. -/
theorem Mapping.ext_get? {α : Type} {first second : Mapping α}
    (h : ∀ name, first.get? name = second.get? name) : first = second := by
  obtain ⟨entries, hAscending⟩ := first
  obtain ⟨others, hOthers⟩ := second
  have hEntries : entries = others := Entries.ext_get? hAscending hOthers h
  subst hEntries
  rfl

end TextTemplate
