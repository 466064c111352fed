import AnnotatedMarkdown.Annotation.Entity
import AnnotatedMarkdown.Generation.Encoding
import AnnotatedMarkdown.Python.Printer

/-!
# Attachment statements

The generated module attaches the metadata of every entity to what its reference
denotes.  `entityStatements` are the statements of one entity, and `emit` is the text of
the module: its prelude, an empty line and the statements of all entities.
-/

namespace AnnotatedMarkdown.Generation

open Python

/-- The call of a named function with two arguments. -/
def callWith (function : String) (target metadata : Expr) : Expr :=
  .call (.name function) [target, metadata] []

/-- The statement that attaches metadata to a target. -/
def attachCall (target metadata : Expr) : Stmt :=
  .expr (callWith "attach" target metadata)

/-- The call that tags a target with metadata and yields the target. -/
def withMetaCall (target metadata : Expr) : Expr :=
  callWith "with_meta" target metadata

/-- The statements of an entity: those that its values need, and the attachment. -/
def entityStatements (e : Entity) : Except Failure (List Stmt) := do
  let target ← parseReference e.reference
  let encoding := encodeMapping e.metadata
  let metadata ← encoding.outcome
  return encoding.hoisted ++ [attachCall target metadata]

/-- The statements of several entities. -/
def moduleStatements (entities : List Entity) : Except Failure Module := do
  return (← entities.mapM entityStatements).flatten

/-- The import that a generated module needs. -/
def defaultPrelude : List Text :=
  ["from annodoc.runtime import attach, with_meta"]

/-- The prelude lines that are not blank, an empty line if there is code, the code, and
a line break at the end. -/
def layout (preludeLines : List Text) (code : Text) : Text :=
  let chunks := preludeLines.filter fun line => !line.isBlank
  let chunks :=
    if code.isEmpty then chunks
    else if chunks.isEmpty then [code]
    else chunks ++ [[], code]
  Text.join "\n" chunks ++ [.scalar '\n']

/-- The text of statements, unless they hold a number with too many digits. -/
def moduleText (statements : Module) : Except Failure Text :=
  match printModule statements with
  | some code => .ok code
  | none => .error (.defect .tooManyDigits)

/-- The generated module of entities. -/
def emit (preludeLines : List Text) (entities : List Entity) : Except Failure Text := do
  let statements ← moduleStatements entities
  return layout preludeLines (← moduleText statements)

end AnnotatedMarkdown.Generation
