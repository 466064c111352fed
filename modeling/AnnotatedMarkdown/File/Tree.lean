import AnnotatedMarkdown.File.Path
import AnnotatedMarkdown.Python.Quoted

/-!
# File trees

A `Tree` holds the files and directories that a command works on, and the working
directory.  The directories on the way to the working directory exist always.  A path is
followed name by name, so that each name but the last has to be a directory.
-/

namespace AnnotatedMarkdown.File

/-- What is at a place. -/
inductive Content where
  | directory
  | file (bytes : ByteArray)

instance : BEq Content where
  beq
    | .directory, .directory => true
    | .file bytes, .file bytes' => bytes.data == bytes'.data
    | _, _ => false

/-- Why a file cannot be used. -/
inductive AccessCause where
  | missing
  | present
  | notDirectory
  | isDirectory
  deriving DecidableEq

/-- A file that cannot be used, by its path. -/
structure AccessFault where
  cause : AccessCause
  path : Text
  deriving DecidableEq

/-- The wording of a cause with its number. -/
def AccessCause.text : AccessCause → Text
  | missing => "[Errno 2] No such file or directory"
  | present => "[Errno 17] File exists"
  | notDirectory => "[Errno 20] Not a directory"
  | isDirectory => "[Errno 21] Is a directory"

/-- The wording of a fault. -/
def AccessFault.message (f : AccessFault) : Text :=
  Text.concat [f.cause.text, ": ", Python.quoted f.path]

/-- The working directory and the home directory, and what is at each place; the first
entry for a place counts. -/
structure Tree where
  directory : Place
  home : Place
  entries : List (Place × Content)

namespace Tree

/-- What is at a place. -/
def content? (t : Tree) (p : Place) : Option Content :=
  if p.isPrefixOf t.directory then some .directory
  else (t.entries.find? fun e => e.1 == p).map Prod.snd

/-- Whether a directory is at a place. -/
def isDirectory (t : Tree) (p : Place) : Bool :=
  match t.content? p with
  | some .directory => true
  | _ => false

/-- Whether something is at a place. -/
def isPresent (t : Tree) (p : Place) : Bool :=
  (t.content? p).isSome

/-- Puts something at a place. -/
def put (t : Tree) (p : Place) (c : Content) : Tree :=
  { t with entries := (p, c) :: t.entries.filter fun e => e.1 != p }

/-! ## Following paths -/

/-- The place that names lead to; the last of them need not exist. -/
def follow (t : Tree) (p : Place) : List Text → Except AccessCause Place
  | [] => .ok p
  | name :: names =>
    match t.content? p with
    | some .directory => t.follow (p.follow name) names
    | some (.file _) => .error .notDirectory
    | none => .error .missing

/-- The place that a path leads to. -/
def locate (t : Tree) (p : Path) : Except AccessFault Place :=
  (t.follow (if p.isAbsolute then [] else t.directory) p.names).mapError (⟨·, p.text⟩)

/-- The place that a path spells, whether or not its directories exist. -/
def spelled (t : Tree) (p : Path) : Place :=
  p.placeFrom t.directory

/-- The place that a path spells if a tilde in front stands for the home directory.  A
tilde with a name would stand for somebody's home directory, which is not known. -/
def spelledFromHome? (t : Tree) (p : Path) : Option Place :=
  match p.isAbsolute, p.names with
  | false, name :: names =>
    if name.head? != some (.scalar '~') then some (t.spelled p)
    else if name.length = 1 then some (names.foldl Place.follow t.home)
    else none
  | _, _ => some (t.spelled p)

/-- The path to a place from the root. -/
def absolute (p : Place) : Path :=
  ⟨true, p⟩

/-! ## Files -/

/-- The bytes of a file. -/
def read (t : Tree) (p : Path) : Except AccessFault ByteArray := do
  match t.content? (← t.locate p) with
  | some (.file bytes) => .ok bytes
  | some .directory => .error ⟨.isDirectory, p.text⟩
  | none => .error ⟨.missing, p.text⟩

/-- The place of a file that is to be written: its directory exists, and it is no
directory itself. -/
def target (t : Tree) (p : Path) : Except AccessFault Place := do
  let place ← t.locate p
  match t.content? place with
  | some .directory => .error ⟨.isDirectory, p.text⟩
  | some (.file _) => .ok place
  | none =>
    match t.content? place.parent with
    | some .directory => .ok place
    | some (.file _) => .error ⟨.notDirectory, p.text⟩
    | none => .error ⟨.missing, p.text⟩

/-- Replaces a file, or makes a new one. -/
def write (t : Tree) (p : Path) (bytes : ByteArray) : Except AccessFault Tree := do
  return t.put (← t.target p) (.file bytes)

/-- The bytes of the file at a place, which are none if there is no file. -/
def bytesAt (t : Tree) (p : Place) : ByteArray :=
  match t.content? p with
  | some (.file bytes) => bytes
  | _ => .empty

/-- Adds bytes to the end of the file at a place. -/
def append (t : Tree) (p : Place) (bytes : ByteArray) : Tree :=
  t.put p (.file (t.bytesAt p ++ bytes))

/-- Opens a file for additions, which makes an empty one if there is none. -/
def openForAdditions (t : Tree) (p : Path) : Except AccessFault (Place × Tree) := do
  let place ← t.target p
  return (place, if t.isPresent place then t else t.put place (.file .empty))

/-! ## Directories -/

/-- Makes a single directory. -/
def makeDirectory (t : Tree) (p : Path) : Except AccessFault Tree := do
  let place ← t.locate p
  if t.isPresent place then .error ⟨.present, p.text⟩
  else
    match t.content? place.parent with
    | some .directory => .ok (t.put place .directory)
    | some (.file _) => .error ⟨.notDirectory, p.text⟩
    | none => .error ⟨.missing, p.text⟩

/-- Whether a path leads to a directory. -/
def leadsToDirectory (t : Tree) (p : Path) : Bool :=
  match t.locate p with
  | .ok place => t.isDirectory place
  | .error _ => false

/-- Makes a single directory unless it exists. -/
def ensureDirectory (t : Tree) (p : Path) : Except AccessFault Tree :=
  match t.makeDirectory p with
  | .ok made => .ok made
  | .error f => if t.leadsToDirectory p then .ok t else .error f

/-- Makes a directory, and at most a number of directories above it if they are
missing.  One that exists is kept. -/
def makeDirectories (t : Tree) (p : Path) : (above : Nat) → Except AccessFault Tree
  | 0 => t.ensureDirectory p
  | above + 1 =>
    match t.ensureDirectory p with
    | .ok made => .ok made
    | .error f =>
      if f.cause = .missing then do
        let t ← t.makeDirectories p.parent above
        t.ensureDirectory p
      else .error f

/-- Makes the directory that a path leads into. -/
def makeParent (t : Tree) (p : Path) : Except AccessFault Tree :=
  t.makeDirectories p.parent p.names.length

end Tree

end AnnotatedMarkdown.File
