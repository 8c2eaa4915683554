import TextTemplate.Text.Numeral
import TextTemplate.Value.Basic

/-!
# Looking into values

One segment of a dotted path, applied to a value: a key of a mapping, a position of a
sequence, one of the words `first`, `last` and `count`, or a field of a record.
-/

namespace TextTemplate.Value

open TextTemplate.Text

/-- The words that texts, sequences and mappings answer to. -/
def wordLookup (value : Value) (segment : String) : Option Value :=
  if segment = "first" then value.first?
  else if segment = "last" then value.last?
  else if segment = "count" then value.count?.map ofNat
  else none

/-- A field of a record: by position among its own fields when the record is positional
and the segment is a number, and otherwise by name. -/
def recordLookup (value : Value) (segment : String) : Option Value :=
  match value with
  | record _ positional lineage =>
    match if positional then readPosition segment else none with
    | some index => ((Lineage.own lineage)[index]?).map Prod.snd
    | none => Lineage.field? segment lineage
  | _ => none

/-- What a segment finds in a value. A mapping's own keys come before the words, and a
sequence takes every whole number for a position, in range or not. -/
def lookup (value : Value) (segment : String) : Option Value :=
  let otherwise := value.wordLookup segment <|> value.recordLookup segment
  match value with
  | mapping entries => Entries.get? entries segment <|> otherwise
  | sequence items =>
    match readInt64 segment with
    | some index => if index < 0 then none else items[index.toInt.toNat]?
    | none => otherwise
  | _ => otherwise

end TextTemplate.Value
