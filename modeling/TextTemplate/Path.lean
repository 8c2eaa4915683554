import TextTemplate.Text.Division

/-!
# Paths

A path is kept as its pieces between slashes, empty ones included, so that its text is
never lost: paths appear in messages exactly as they were given. What a path means are
its steps, from which repeated slashes and all dots but a leading one are gone.

`confine` is the join that template names go through: it follows the steps of a name
below a base directory and gives up as soon as they would leave it, by text alone and
without asking the file system.
-/

namespace TextTemplate

/-- A path, as the pieces of its text between slashes. -/
structure Path where
  pieces : List String
  deriving DecidableEq, Repr

namespace Path

/-- One step of a path. -/
inductive Step where
  /-- To the root of the file system. -/
  | root
  /-- To where the path starts, written as a leading dot. -/
  | here
  /-- To the directory above. -/
  | up
  /-- To the entry of a name. -/
  | down (name : String)
  deriving DecidableEq, Repr

/-- The path that a text writes. -/
def ofString (text : String) : Path :=
  ⟨Text.divideText "/" text⟩

/-- The text of a path. -/
def text (path : Path) : String :=
  "/".intercalate path.pieces

instance : ToString Path := ⟨text⟩

/-- Whether the path starts at the root. -/
def isAbsolute (path : Path) : Bool :=
  match path.pieces with
  | "" :: _ :: _ => true
  | _ => false

/-- The step of a piece, if it makes one. -/
def stepOf? (piece : String) : Option Step :=
  if piece = "" || piece = "." then none
  else if piece = ".." then some .up
  else some (.down piece)

/-- The steps of a path. -/
def steps (path : Path) : List Step :=
  match path.pieces with
  | "" :: piece :: rest => .root :: (piece :: rest).filterMap stepOf?
  | "." :: rest => .here :: rest.filterMap stepOf?
  | pieces => pieces.filterMap stepOf?

/-- The pieces that further pieces follow: all of them, unless the text is empty or ends
in a slash. -/
def stem (pieces : List String) : List String :=
  if pieces.getLast? = some "" then pieces.dropLast else pieces

/-- A path below another one; a path that starts at the root stands for itself. -/
def join (base path : Path) : Path :=
  if path.isAbsolute then path else ⟨stem base.pieces ++ path.pieces⟩

/-- The entry of a name in the directory of a path. -/
def push (path : Path) (name : String) : Path :=
  ⟨stem path.pieces ++ [name]⟩

/-- Drops pieces that make no step, from the last one on; the first piece stays. Given
and returned last one first. -/
def dropIdle : List String → List String
  | [] => []
  | [piece] => [piece]
  | piece :: before =>
    if piece = "" || piece = "." then dropIdle before else piece :: before

/-- The directory that holds the entry of a path, for a path that ends in a name. -/
def parent (path : Path) : Path :=
  match path.pieces.reverse.drop 1 with
  | [] => ⟨[""]⟩
  | before =>
    match (dropIdle before).reverse with
    | [""] => ⟨["", ""]⟩
    | pieces => ⟨pieces⟩

/-- Follows steps from a path that lies `depth` names below its base. -/
def follow (joined : Path) (depth : Nat) : List Step → Option Path
  | [] => some joined
  | .down name :: rest => follow (joined.push name) (depth + 1) rest
  | .here :: rest => follow joined depth rest
  | .up :: rest =>
    match depth with
    | 0 => none
    | above + 1 => follow joined.parent above rest
  | .root :: _ => none

/-- The path of a name below a base directory; none when the name is absolute or climbs
above the base. -/
def confine (base name : Path) : Option Path :=
  follow base 0 name.steps

end Path

end TextTemplate
