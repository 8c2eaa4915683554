import TextTemplate.Value.Basic

/-!
# Scopes

Names are looked up in a stack of scopes, the innermost first. A name bound to nil is
hidden: the look-up stops there and finds nothing, whatever outer scopes bind. Bindings
are made in the innermost scope only.
-/

namespace TextTemplate

/-- The names that one scope binds. -/
abbrev Scope := Mapping Value

/-- A stack of scopes, the innermost first. -/
abbrev Scopes := List Scope

namespace Scopes

/-- The value of the innermost binding of a name, hidden ones included. -/
def binding? : Scopes → String → Option Value
  | [], _ => none
  | scope :: outer, name =>
    match scope.get? name with
    | some value => some value
    | none => binding? outer name

/-- The value of a name. A binding to nil hides the name. -/
def get? (scopes : Scopes) (name : String) : Option Value :=
  (scopes.binding? name).filter fun value => !value.isNil

/-- Binds a name in the innermost scope. -/
def set (scopes : Scopes) (name : String) (value : Value) : Scopes :=
  match scopes with
  | [] => []
  | scope :: outer => scope.insert name value :: outer

/-- Lays the entries of a scope over a mapping; entries of nil take the name out. -/
def overlay (mapping : Mapping Value) (scope : Scope) : Mapping Value :=
  scope.entries.foldl
    (fun merged entry =>
      if entry.2.isNil then merged.erase entry.1 else merged.insert entry.1 entry.2)
    mapping

/-- All visible names in one mapping, inner bindings over outer ones. -/
def flatten (scopes : Scopes) : Mapping Value :=
  scopes.foldr (fun scope merged => overlay merged scope) Mapping.empty

end Scopes

end TextTemplate
