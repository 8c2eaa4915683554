import TextTemplate.Error
import TextTemplate.Text.Blank

/-!
# Diagnostics

What an author of a template is told about an error: the message, some help, and where
in the source the trouble is. Errors carry no positions, so the name of an unknown tag
or filter is looked for in the source: its first occurrence behind the mark that tags or
filters stand behind. Positions count bytes.
-/

namespace TextTemplate

open TextTemplate.Text

/-- A stretch of a source, in bytes. -/
structure SourceSpan where
  offset : Nat
  length : Nat
  deriving DecidableEq, Repr

/-- The number of bytes of characters. -/
def byteLength : List Char → Nat
  | [] => 0
  | c :: rest => c.utf8Size + byteLength rest

/-- The first name that follows a mark, blanks between them allowed. The characters are
the end of a source of `total` bytes. -/
def locateWithin (total : Nat) (mark name cs : List Char) : Option SourceSpan :=
  match _h : cutAt mark cs with
  | none => none
  | some (_, after) =>
    let candidate := after.dropWhile isBlank
    if name.isPrefixOf candidate
      then some ⟨total - byteLength candidate, byteLength name⟩
    else locateWithin total mark name after
  termination_by cs.length
  decreasing_by exact length_cutAt _h

/-- The first name in a source that follows a mark. -/
def locateAfter (source mark name : String) : Option SourceSpan :=
  locateWithin source.utf8ByteSize mark.toList name.toList source.toList

/-- The first place where a source uses a filter. -/
def locateFilter (source name : String) : Option SourceSpan :=
  locateAfter source "|" name

/-- The first place where a source opens a tag. -/
def locateTag (source name : String) : Option SourceSpan :=
  locateAfter source "\x7b%" name

/-- What is told about an error. -/
structure Diagnostic where
  message : String
  help : Option String
  span : Option SourceSpan
  deriving DecidableEq, Repr

namespace Diagnostic

/-- What is told about an error in a source. -/
def ofError (source : String) (error : Error) : Diagnostic :=
  match error with
  | .unknownFilter name suggestions =>
    { message := "unknown filter `" ++ name ++ "`"
      help :=
        if suggestions.isEmpty then none
        else some ("did you mean: " ++ ", ".intercalate suggestions ++ "?")
      span := locateFilter source name }
  | .unknownTag name =>
    { message := error.message
      help := some "run `malline tags` to list the available tags"
      span := locateTag source name }
  | _ => { message := error.message, help := none, span := none }

end Diagnostic

end TextTemplate
