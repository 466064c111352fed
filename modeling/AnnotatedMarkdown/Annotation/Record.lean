import AnnotatedMarkdown.Annotation.Line
import AnnotatedMarkdown.Diagnostic

/-!
# Records

A record is what stands between two markers: the reference of the first one with the
number of its line, the metadata lines up to a separator and the documentation lines
after it.  `Reduction.step` takes one tagged line, `Record.ofTags` reduces all lines of
a text, and `Record.render` writes a record back.
-/

namespace AnnotatedMarkdown

/-- The lines of one entity.  Every line of metadata and of documentation starts with a
line feed. -/
structure Record where
  reference : Text
  line : Int
  metadata : Text
  documentation : Text
  deriving DecidableEq

namespace Record

/-- The record that a marker opens. -/
def opened (reference : Text) (line : Int) : Record :=
  ⟨reference, line, [], []⟩

/-- Adds a line of metadata. -/
def addMetadata (r : Record) (text : Text) : Record :=
  { r with metadata := r.metadata ++ .scalar '\n' :: text }

/-- Adds a line of documentation. -/
def addDocumentation (r : Record) (text : Text) : Record :=
  { r with documentation := r.documentation ++ .scalar '\n' :: text }

/-- The marker of a record, its metadata, a separator and its documentation. -/
def render (r : Record) : Text :=
  Text.concat [markerLead, r.reference, r.metadata, "\n---", r.documentation]

end Record

/-- The state between two lines: the open record, whether its metadata is still open,
and the records before it. -/
structure Reduction where
  current : Option Record
  inMetadata : Bool
  completed : List Record
  deriving DecidableEq

namespace Reduction

/-- The state before the first line. -/
def start : Reduction :=
  ⟨none, false, []⟩

/-- All records that have been opened. -/
def records (s : Reduction) : List Record :=
  s.completed ++ s.current.toList

/-- Takes one tagged line with its number. -/
def step (s : Reduction) (tag : Tag) (line : Int) : Except Diagnostic Reduction :=
  match tag, s.current with
  | .marker reference, _ => .ok ⟨some (.opened reference line), true, s.records⟩
  | .endOfInput, _ => .ok ⟨none, false, s.records⟩
  | .separator, none => .error (.structural .separatorOutside line)
  | .content _, none => .error (.structural .contentOutside line)
  | .separator, some _ => .ok { s with inMetadata := false }
  | .content text, some r =>
    .ok { s with current := some (if s.inMetadata then r.addMetadata text else r.addDocumentation text) }

/-- Takes tagged lines, the first of which has a given number, and then the end of the
text. -/
def run (s : Reduction) (line : Int) : List Tag → Except Diagnostic Reduction
  | [] => s.step .endOfInput line
  | tag :: tags => do
    let s ← s.step tag line
    s.run (line + 1) tags

/-- The outcome of each of several steps.  A step that fails leaves the state as it
was. -/
def trace (s : Reduction) : List (Tag × Int) → List (Except Diagnostic Reduction)
  | [] => []
  | (tag, line) :: steps =>
    match s.step tag line with
    | .ok next => .ok next :: next.trace steps
    | .error d => .error d :: s.trace steps

end Reduction

/-- The records of tagged lines. -/
def Record.ofTags (tags : List Tag) : Except Diagnostic (List Record) :=
  (Reduction.start.run 1 tags).map Reduction.completed

/-- The records of a text. -/
def Record.ofText (source : Text) : Except Diagnostic (List Record) :=
  ofTags ((splitLines source).map Tag.ofLine)

end AnnotatedMarkdown
