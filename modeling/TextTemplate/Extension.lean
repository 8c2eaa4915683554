import TextTemplate.Filter.Standard
import TextTemplate.Reading
import TextTemplate.Suggestion
import TextTemplate.Tag.Choice
import TextTemplate.Tag.Inheritance
import TextTemplate.Tag.Loop
import TextTemplate.Tag.Region
import TextTemplate.Text.Quoted

/-!
# Extensions

Tags and filters by name. An application brings extensions of its own; a name is looked
for in each of them in turn and at last in the standard extension, so an application may
replace what is standard.
-/

namespace TextTemplate

open TextTemplate.Text

/-- Named tags and filters. -/
structure Extension where
  tags : Mapping TagReader
  filters : Mapping Filter

namespace Extension

/-- The extension without tags and filters. -/
def empty : Extension := ⟨∅, ∅⟩

instance : Inhabited Extension := ⟨empty⟩

/-- Adds a tag, in place of an earlier one of the same name. -/
def withTag (extension : Extension) (name : String) (reader : TagReader) : Extension :=
  { extension with tags := extension.tags.insert name reader }

/-- Adds a tag without a body. -/
def withAction (extension : Extension) (name : String) (action : Action) : Extension :=
  extension.withTag name fun _ _ => pure (.custom action)

/-- Adds a filter, in place of an earlier one of the same name. -/
def withFilter (extension : Extension) (name : String) (filter : Filter) : Extension :=
  { extension with filters := extension.filters.insert name filter }

/-- What the extension knows, in words. -/
def summary (extension : Extension) : String :=
  "Extension \x7b tags: " ++ quotedList extension.tags.keys ++ ", filters: " ++
    quotedList extension.filters.keys ++ " \x7d"

/-- The standard tags and filters. -/
def standard : Extension where
  tags := Mapping.ofList
    [("for", Tag.readLoop),
     ("if", Tag.readChoice),
     ("ifnot", Tag.readNegatedChoice),
     ("now", Tag.readNow),
     ("include", Tag.readEmbed),
     ("extends", Tag.readInherit),
     ("block", Tag.readBlock),
     ("filter", Tag.readFiltered)]
  filters := Mapping.ofList Filter.standard

end Extension

/-- Extensions in the order in which they are asked for a name. -/
abbrev Registry := List Extension

namespace Registry

/-- The tag of a name. -/
def findTag (registry : Registry) (name : String) : Except Error TagReader :=
  match registry.findSome? fun extension => extension.tags.get? name with
  | some reader => .ok reader
  | none => .error (.unknownTag name)

/-- The names of all filters, extension by extension. -/
def filterNames (registry : Registry) : List String :=
  registry.flatMap fun extension => extension.filters.keys

/-- The filter of a name. An unknown name comes with suggestions. -/
def findFilter (registry : Registry) : FilterFinder := fun name =>
  match registry.findSome? fun extension => extension.filters.get? name with
  | some filter => .ok filter
  | none => .error (.unknownFilter name (suggestions name registry.filterNames))

end Registry

end TextTemplate
