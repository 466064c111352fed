import AnnotatedMarkdown.Text.CodePoint

/-!
# Paths

A path is a sequence of names with slashes between them, and starts at the root if a
slash stands in front.  Empty names and single points are left out; a double point is a
name, which leads to the directory above.  A `Place` is where a path leads to: the names
from the root, without double points.
-/

namespace AnnotatedMarkdown.File

/-- The names from the root to a file or a directory. -/
abbrev Place := List Text

/-- A path. -/
structure Path where
  isAbsolute : Bool
  names : List Text
  deriving DecidableEq

/-- The name of the directory above. -/
def aboveName : Text :=
  ".."

/-- The name of the directory itself. -/
def hereName : Text :=
  "."

/-- Whether a code point separates names. -/
def isSlash (c : CodePoint) : Bool :=
  c == .scalar '/'

/-- Follows a name from a place. -/
def Place.follow (p : Place) (name : Text) : Place :=
  if name = aboveName then p.dropLast else p ++ [name]

/-- The last name of a place. -/
def Place.name (p : Place) : Text :=
  p.getLast?.getD []

/-- The directory that a place is in. -/
def Place.parent (p : Place) : Place :=
  p.dropLast

/-- The names of a place after slashes. -/
def Place.text (p : Place) : Text :=
  .scalar '/' :: Text.join "/" p

/-- The ending of a name from its last point on: a point that starts or ends the name
starts no ending. -/
def ending (name : Text) : Text :=
  let isPoint (c : CodePoint) : Bool := c == .scalar '.'
  let reversed := name.reverse
  let tail := (reversed.takeWhile fun c => !isPoint c).reverse
  let stem := name.take (name.length - tail.length - 1)
  if name.any isPoint && !tail.isEmpty && !stem.isEmpty then .scalar '.' :: tail else []

namespace Path

/-- Reads a path. -/
def ofText (t : Text) : Path :=
  ⟨t.head?.any isSlash, (Text.splitBy isSlash t).filter fun n => !n.isEmpty && n != hereName⟩

/-- Writes a path; one without names is the directory itself. -/
def text (p : Path) : Text :=
  if p.isAbsolute then Place.text p.names
  else if p.names.isEmpty then hereName
  else Text.join "/" p.names

/-- The path to the directory that a path leads into. -/
def parent (p : Path) : Path :=
  { p with names := p.names.dropLast }

/-- The place that the names of a path spell from a directory. -/
def placeFrom (p : Path) (directory : Place) : Place :=
  p.names.foldl Place.follow (if p.isAbsolute then [] else directory)

end Path

end AnnotatedMarkdown.File
