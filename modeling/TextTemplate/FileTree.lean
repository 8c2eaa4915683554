import TextTemplate.Mapping
import TextTemplate.Path

/-!
# Files

A directory tree as a value, and what a path finds in it. The tree is the current
directory; of what lies outside, only the directories above it are known to exist. A
path is followed piece by piece, so that every piece but the first needs a directory
before it, dots and empty pieces included.
-/

namespace TextTemplate

/-- Why a file's text could not be read. -/
inductive ReadFailure where
  | missing
  | notDirectory
  | isDirectory
  | nameTooLong
  | notText
  | other (reason : String)
  deriving DecidableEq, Repr

namespace ReadFailure

/-- The failure in words. -/
def message : ReadFailure → String
  | missing => "No such file or directory (os error 2)"
  | notDirectory => "Not a directory (os error 20)"
  | isDirectory => "Is a directory (os error 21)"
  | nameTooLong => "File name too long (os error 36)"
  | notText => "stream did not contain valid UTF-8"
  | other reason => reason

end ReadFailure

/-- What stands at a path. -/
inductive FileStatus where
  | file (bytes : ByteArray)
  /-- A file whose bytes cannot be read. -/
  | locked (failure : ReadFailure)
  | directory
  | unreachable (failure : ReadFailure)

namespace FileStatus

/-- Whether a file stands there. -/
def isFile : FileStatus → Bool
  | file _ => true
  | locked _ => true
  | _ => false

/-- The text of the file. -/
def readText : FileStatus → Except ReadFailure String
  | file bytes =>
    match String.fromUTF8? bytes with
    | some text => .ok text
    | none => .error .notText
  | locked failure => .error failure
  | directory => .error .isDirectory
  | unreachable failure => .error failure

end FileStatus

/-- A file or a directory of named trees. -/
inductive FileTree where
  | file (bytes : ByteArray)
  | directory (entries : List (String × FileTree))
  deriving Inhabited

namespace FileTree

/-- The directory without entries. -/
def empty : FileTree := directory []

/-- The entries of a directory; a file has none. -/
def children : FileTree → List (String × FileTree)
  | file _ => []
  | directory entries => entries

/-- Puts a tree at a place below, with the directories on the way. -/
def put (leaf : FileTree) : List String → FileTree → FileTree
  | [], _ => leaf
  | name :: rest, tree =>
    let child := (Entries.get? tree.children name).getD empty
    directory (Entries.insert tree.children name (put leaf rest child))

/-- Makes a directory at a place below, unless something stands there. -/
def putDirectory : List String → FileTree → FileTree
  | [], tree => tree
  | name :: rest, tree =>
    let child := (Entries.get? tree.children name).getD empty
    directory (Entries.insert tree.children name (putDirectory rest child))

/-- A place reached on the way along a path. -/
inductive Place where
  /-- A tree, with the directories above it up to the current one. -/
  | within (tree : FileTree) (above : List FileTree)
  /-- A directory above the current one. -/
  | outside

namespace Place

/-- One piece further. -/
def step (place : Place) (piece : String) : Except ReadFailure Place :=
  match place with
  | within (.file _) _ => .error .notDirectory
  | within (.directory entries) above =>
    if piece = "" || piece = "." then .ok place
    else if piece = ".." then
      match above with
      | [] => .ok outside
      | tree :: rest => .ok (within tree rest)
    else if 255 < piece.utf8ByteSize then .error .nameTooLong
    else
      match Entries.get? entries piece with
      | some tree => .ok (within tree (.directory entries :: above))
      | none => .error .missing
  | outside =>
    if piece = "" || piece = "." || piece = ".." then .ok outside
    else if 255 < piece.utf8ByteSize then .error .nameTooLong
    else .error .missing

end Place

/-- The longest text of a path that can be followed, in bytes. -/
def longestPath : Nat := 4095

/-- What stands at a path. -/
def look (tree : FileTree) (path : Path) : FileStatus :=
  let start := if path.isAbsolute then Place.outside else Place.within tree []
  if path.pieces = [""] then .unreachable .missing
  else if longestPath < path.text.utf8ByteSize then .unreachable .nameTooLong
  else
    match path.pieces.foldlM Place.step start with
    | .error failure => .unreachable failure
    | .ok .outside => .directory
    | .ok (.within (.file bytes) _) => .file bytes
    | .ok (.within (.directory _) _) => .directory

end FileTree

end TextTemplate
