import TextTemplate.Reading

/-!
# Reading inclusions, filtered regions and the time

The tags that need no more than their own token, and the one whose body goes through
filters. A filtered region is rendered by binding the text of its body to a name and
resolving a filter chain that starts at this name.
-/

namespace TextTemplate.Tag

/-- The name that the text of a filtered region is bound to. -/
def regionName : String := "filter_value"

/-- Reads a filtered region. -/
def readFiltered : TagReader := fun find token => do
  match token.components with
  | [_, filters] =>
    let body ← Reading.bodyUntil ["endfilter"]
    let _ ← Reading.close "endfilter"
    let chain ← Reading.ofExcept
        (FilterChain.compile find (regionName ++ "|" ++ filters))
    return .filtered chain body
  | _ => Reading.fault .filterUsage

/-- Reads an inclusion. -/
def readEmbed : TagReader := fun _ token =>
  match token.components with
  | [_, name] => pure (.embed (Variable.ofString name) none)
  | [_, name, bindings] =>
    pure (.embed (Variable.ofString name) (some (Variable.ofString bindings)))
  | _ => Reading.fault .includeUsage

/-- Reads the time. -/
def readNow : TagReader := fun _ token =>
  match token.components with
  | [_] => pure (.now none)
  | [_, format] => pure (.now (some (Variable.ofString format)))
  | _ => Reading.fault (.nowUsage token.contents)

end TextTemplate.Tag
