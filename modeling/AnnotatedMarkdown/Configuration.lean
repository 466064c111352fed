import AnnotatedMarkdown.Compilation
import AnnotatedMarkdown.File.Tree
import AnnotatedMarkdown.Text.Utf8

/-!
# Configuration

A configuration file may stand next to an annotated file.  Its section `codegen` sets the
lines in front of the generated code, the version of the grammar and the names of
examples.  A section that is no mapping sets nothing, and neither does a setting that is
not of the kind asked for, except for the version.
-/

namespace AnnotatedMarkdown

open File Inference Generation

/-- Why a configuration is refused. -/
inductive ConfigurationFault where
  | malformed (file : Text)
  | notMapping (file : Text)
  | unquotedVersion
  | version (shown : Text)
  | namePrefix (written : Text)
  deriving DecidableEq

/-- The wording of a fault. -/
def ConfigurationFault.message : ConfigurationFault → Text
  | malformed file => Text.concat ["Failed to parse ", file, ": <yaml>"]
  | notMapping file => Text.concat [file, " must contain a mapping at the root"]
  | unquotedVersion => "codegen.feature_version must be quoted, e.g. \"3.10\""
  | version shown => Text.concat ["codegen.feature_version must look like \"3.8\", got ", shown]
  | namePrefix written =>
    Text.concat ["codegen.example_prefix is not an identifier: ", Python.quoted written]

/-- Why a file is not compiled. -/
inductive CommandFault where
  | failure (f : Failure)
  | configuration (f : ConfigurationFault)
  | access (f : AccessFault)

namespace CommandFault

/-- A circumstance that is not reported as a diagnostic. -/
def defect (d : Defect) : CommandFault :=
  .failure (.defect d)

end CommandFault

/-! ## Settings -/

namespace Configuration

/-- The text of a value that is a text, a number or a truth value. -/
def scalarText? (v : Value) : Except Defect (Option Text) :=
  match v with
  | .str t => .ok (some t)
  | .int _ | .float _ | .bool _ =>
    match v.plain with
    | some t => .ok (some t)
    | none => .error .tooManyDigits
  | _ => .ok none

/-- The texts of those values that have one. -/
def scalarTexts : List Value → Except Defect (List Text)
  | [] => .ok []
  | v :: vs => do
    let t ← scalarText? v
    return t.toList ++ (← scalarTexts vs)

/-- The lines of a prelude: those of a sequence, or a single one.  The items of a sequence
of bytes are numbers. -/
def preludeOf (v : Value) : Except Defect (List Text) :=
  match v with
  | .str t => .ok [t]
  | .list items => scalarTexts items
  | .tuple items => scalarTexts items
  | .bytes bs => .ok (bs.map fun b => .ofNat b.toNat)
  | _ => .ok []

/-- The decimal digits of any script that a text starts with, as numbers, and what
follows them. -/
def leadingDigits : Text → List Nat × Text
  | [] => ([], [])
  | c :: t =>
    match c.char?.bind Unicode.digitValue? with
    | some d => (d :: (leadingDigits t).1, (leadingDigits t).2)
    | none => ([], c :: t)

/-- The number that digits stand for. -/
def numberOf (digits : List Nat) : Nat :=
  digits.foldl (fun n d => 10 * n + d) 0

/-- The numbers before and after the point of a text that holds nothing else. -/
def dottedNumbers? (t : Text) : Option (List Nat × List Nat) :=
  let (major, rest) := leadingDigits t
  match rest with
  | .scalar '.' :: rest =>
    let (minor, rest) := leadingDigits rest
    if major.isEmpty || minor.isEmpty || !rest.isEmpty then none else some (major, minor)
  | _ => none

/-- Why a setting is refused. -/
inductive SettingFault where
  | refused (f : ConfigurationFault)
  | defect (d : Defect)

/-- The version of the grammar that a value asks for. -/
def versionOf (v : Value) : Except SettingFault (Int × Int) :=
  match v with
  | .float _ => .error (.refused .unquotedVersion)
  | v =>
    match v.plain with
    | none => .error (.defect .tooManyDigits)
    | some t =>
      match dottedNumbers? t.trim with
      | none => .error (.refused (.version (v.display.getD [])))
      | some (major, minor) =>
        if max major.length minor.length ≤ Python.maxDecimalDigits then
          .ok (numberOf major, numberOf minor)
        else .error (.defect .tooManyDigits)

/-- Whether a text is an identifier. -/
def isIdentifier (t : Text) : Bool :=
  match t.chars? with
  | some cs => Unicode.isIdentifier cs
  | none => false

/-- What stands in front of the numbers of examples. -/
def namePrefixOf (v : Value) : Except SettingFault (Option Text) := do
  match ← (scalarText? v).mapError .defect with
  | none => return none
  | some t =>
    if t.isEmpty then return none
    else if isIdentifier t then return some t
    else throw (.refused (.namePrefix t))

/-- A field of a section that is not null. -/
def field? (section_ : Entries) (name : String) : Option Value :=
  match section_.get? (.str name) with
  | some .none => none
  | v => v

/-- The options that a section sets. -/
def optionsOf (section_ : Entries) : Except SettingFault Options := do
  let lines ←
    match section_.get? (.str "prelude") with
    | some v => (preludeOf v).mapError .defect
    | none => pure defaultPrelude
  let version ←
    match field? section_ "feature_version" with
    | some v => some <$> versionOf v
    | none => pure none
  let namePrefix ←
    match field? section_ "example_prefix" with
    | some v => namePrefixOf v
    | none => pure none
  return ⟨lines, ⟨version, namePrefix.getD Settings.default.namePrefix⟩⟩

/-- The section of a configuration that sets options. -/
def sectionOf (root : Entries) : Entries :=
  match root.get? (.str "codegen") with
  | some (.dict entries) => entries
  | _ => []

/-- The fields of a configuration.  A blank text has none, and neither has a document
that is null, zero or empty. -/
def fieldsOf (file source : Text) : Except SettingFault Entries :=
  if source.isBlank then .ok []
  else
    match Yaml.load source with
    | .error .malformed => .error (.refused (.malformed file))
    | .error (.defect d) => .error (.defect d)
    | .ok (.dict entries) => .ok entries
    | .ok v => if v.isTruthy then .error (.refused (.notMapping file)) else .ok []

/-- The options that the text of a configuration file sets. -/
def read (file source : Text) : Except SettingFault Options := do
  optionsOf (sectionOf (← fieldsOf file source))

end Configuration

/-! ## Files -/

/-- A configuration: the directory of its file, and the options it sets. -/
structure Configuration where
  root : Place
  options : Options

namespace Configuration

/-- The name of a configuration file. -/
def fileName : Text :=
  ".annodoc.yml"

/-- The configuration file for a place: that in a directory, the file itself, or that
next to another file. -/
def fileFor (t : Tree) (place : Place) : Place :=
  if t.isDirectory place then place ++ [fileName]
  else if ending place.name = ".yml" ∨ ending place.name = ".yaml" then place
  else place.parent ++ [fileName]

/-- The text of a file. -/
def readText (t : Tree) (p : Path) : Except CommandFault Text := do
  if p.names.any fun n => n.contains (.scalar '\x00') then throw (.defect .nullCharacter)
  let bytes ← (t.read p).mapError .access
  match Text.ofUtf8? bytes with
  | some text => return text.withLineFeeds
  | none => throw (.defect .undecodable)

/-- The configuration for a path, which is the usual one without a file. -/
def load (t : Tree) (p : Path) : Except CommandFault Configuration := do
  match t.spelledFromHome? p with
  | none => throw (.defect .unknownHome)
  | some place =>
    let file := fileFor t place
    if t.isPresent file then
      let source ← readText t (Tree.absolute file)
      let options ← (read file.name source).mapError fun
        | .refused f => .configuration f
        | .defect d => .defect d
      return ⟨file.parent, options⟩
    else return ⟨file.parent, .default⟩

end Configuration

/-- The module that a file generates, with the configuration for another path or for the
file itself. -/
def compileFile (t : Tree) (path : Text) (configuration : Option Path) :
    Except CommandFault Text := do
  if path.isEmpty then throw (.failure (.diagnostic .missingInput))
  let file := Path.ofText path
  let c ← Configuration.load t (configuration.getD file)
  let source ← Configuration.readText t file
  (compile c.options source).mapError .failure

end AnnotatedMarkdown
