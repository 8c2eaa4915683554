import TextTemplate.Proofs.Mapping
import TextTemplate.Proofs.Scope.Alike

/-!
# Scopes laid one over the other

A look-up searches the scopes from the innermost one outwards, stops at the first
binding and shows nothing if this is a binding to nil. Flattening goes the other way: it
starts with the outermost scope and lays one scope after the other over what it has,
taking names out where they are bound to nil. This module proves that the two agree for
every stack of scopes, whichever of them bind a name, hide it or bind it again, and so
the flattened mapping is the one mapping in which every name has the value that the
scopes show for it.

Within one scope no name occurs twice, which is why the order in which its entries are
laid over a mapping does not matter.

## Main results

* `Scopes.get?_overlay` — what is found after a scope has been laid over a mapping.
* `Scopes.flatten_set` — a binding in the innermost scope changes the flattened mapping
  at its own name.
* `Scopes.flatten_shows` — the flattened mapping holds what the scopes show.
-/

namespace TextTemplate

namespace Scopes

/-! ## One scope over a mapping -/

/-- Entries laid over a mapping decide about the names that they bind. -/
private theorem get?_overlay_entries {entries : Entries Value} (h : entries.Ascending)
    (mapping : Mapping Value) (name : String) :
    (entries.foldl (fun merged entry =>
        if entry.2.isNil then merged.erase entry.1
          else merged.insert entry.1 entry.2) mapping).get? name =
      match entries.get? name with
      | some value => (some value).filter fun value => !value.isNil
      | none => mapping.get? name := by
  induction entries generalizing mapping with
  | nil => rfl
  | cons entry rest ih =>
      obtain ⟨key, value⟩ := entry
      have hFirst : (if value.isNil then mapping.erase key
          else mapping.insert key value).get? name =
          if key = name then (some value).filter fun value => !value.isNil
            else mapping.get? name := by
        by_cases hNil : value.isNil = true <;> simp [Option.filter, hNil]
      rw [List.foldl_cons, ih (Entries.ascending_cons.mp h).2, hFirst,
        Entries.get?_cons]
      by_cases hKey : key = name
      · -- The entries behind the first do not bind its name again.
        have hRest : Entries.get? rest name = none :=
          Entries.get?_eq_none_of_ascending h (hKey ▸ String.lt_irrefl key)
        rw [if_pos hKey, if_pos hKey, hRest]
      · rw [if_neg hKey, if_neg hKey]

/-- What is found after a scope has been laid over a mapping. -/
theorem get?_overlay (mapping : Mapping Value) (scope : Scope) (name : String) :
    (overlay mapping scope).get? name =
      match scope.get? name with
      | some value => (some value).filter fun value => !value.isNil
      | none => mapping.get? name :=
  get?_overlay_entries scope.ascending mapping name

/-! ## All scopes -/

/-- The flattened mapping and the scopes answer alike. -/
theorem get?_flatten (scopes : Scopes) (name : String) :
    scopes.flatten.get? name = scopes.get? name := by
  induction scopes with
  | nil => rfl
  | cons scope outer ih =>
      rw [get?_cons, ← ih]
      exact get?_overlay (flatten outer) scope name

/-- A binding in the innermost scope binds the name in the flattened mapping, or takes
it out. -/
theorem flatten_set (scope : Scope) (outer : Scopes) (name : String) (value : Value) :
    (Scopes.set (scope :: outer) name value).flatten =
      if value.isNil then (flatten (scope :: outer)).erase name
      else (flatten (scope :: outer)).insert name value := by
  refine Mapping.ext_get? fun key => ?_
  have hInner : Scopes.get? (scope.insert name value :: outer) key =
      if name = key then (some value).filter fun value => !value.isNil
      else Scopes.get? (scope :: outer) key := by
    rw [get?_cons, get?_cons, Mapping.get?_insert]
    by_cases hKey : name = key
    · rw [if_pos hKey, if_pos hKey]
    · rw [if_neg hKey, if_neg hKey]
  rw [Scopes.set, get?_flatten, hInner]
  by_cases hNil : value.isNil = true
  · simp [Option.filter, hNil, get?_flatten]
  · simp [Option.filter, hNil, get?_flatten]

/-- The flattened mapping holds what the scopes show: every name has the value in it
that a look-up finds, and is absent where a look-up finds nothing; no value in it is
nil; and no other mapping answers like that. -/
theorem flatten_shows (scopes : Scopes) :
    (∀ name, scopes.flatten.get? name = scopes.get? name) ∧
      (∀ entry ∈ scopes.flatten.entries, entry.2.isNil = false) ∧
      ∀ mapping : Mapping Value, (∀ name, mapping.get? name = scopes.get? name) →
        mapping = scopes.flatten := by
  refine ⟨get?_flatten scopes, fun entry hEntry => ?_, fun mapping hMapping => ?_⟩
  · have hFound : scopes.flatten.get? entry.1 = some entry.2 :=
      Entries.get?_of_mem scopes.flatten.ascending hEntry
    rw [get?_flatten, Scopes.get?, Option.filter_eq_some_iff] at hFound
    simpa using hFound.2
  · exact Mapping.ext_get? fun name => (hMapping name).trans
      (get?_flatten scopes name).symm

/-- A name that is hidden in a scope further in and bound again in the innermost one,
beside one that stays hidden. -/
example :
    let scopes : Scopes :=
  [Mapping.singleton "a" (.int 2), (Mapping.singleton "a" .nil).insert "b" .nil,
      (Mapping.singleton "a" (.int 1)).insert "b" (.int 1)]
    scopes.flatten = Mapping.singleton "a" (.int 2) :=
  rfl

end Scopes

end TextTemplate
