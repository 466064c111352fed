import AnnotatedMarkdown.Annotation.Metadata
import AnnotatedMarkdown.Inference.Derivation

/-!
# Compilation

The way from an annotated text to a generated module: the lines become records, the
records entities, further metadata are derived, and the entities become statements.
-/

namespace AnnotatedMarkdown

open Inference Generation

/-- How a module is generated: the lines in front of its code, and how its examples are
read and named. -/
structure Options where
  preludeLines : List Text
  settings : Settings

/-- The usual prelude, and the usual reading and naming. -/
def Options.default : Options :=
  ⟨defaultPrelude, .default⟩

/-- The entities of a text with their derived metadata. -/
def entitiesOf (options : Options) (source : Text) : Except Failure (List Entity) := do
  let records ← (Record.ofText source).mapError .diagnostic
  deriveAll options.settings 1 (← analyse records)

/-- The module that a text generates. -/
def compile (options : Options) (source : Text) : Except Failure Text := do
  emit options.preludeLines (← entitiesOf options source)

end AnnotatedMarkdown
