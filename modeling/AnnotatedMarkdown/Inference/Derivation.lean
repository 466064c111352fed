import AnnotatedMarkdown.Inference.Definition
import AnnotatedMarkdown.Markdown.Block

/-!
# Derived metadata

Three fields are derived from the others: a deprecated entity has the stability
`deprecated`, the examples are those of the documentation, and the documentation loses
its example markers.  The examples are found before the markers are taken away.
-/

namespace AnnotatedMarkdown.Inference

open Documentation

/-- Sets the stability of metadata that say the entity is deprecated. -/
def inferDeprecated (metadata : Entries) : Entries :=
  match metadata.get? (.str "deprecated") with
  | some v => if v.isTruthy then metadata.put (.str "stability") (.str "deprecated") else metadata
  | none => metadata

/-- The metadata that a documentation text adds, and the next number. -/
def infer (s : Settings) (number : Nat) (reference documentation : Text) :
    Except Failure Entries × Nat :=
  inferExamples s number reference (Markdown.examples documentation)

/-- The metadata with all derived fields, and the next number. -/
def deriveMetadata (s : Settings) (number : Nat) (reference : Text) (metadata : Entries) :
    Except Failure Entries × Nat :=
  let metadata := inferDeprecated metadata
  match metadata.get? (.str "documentation") with
  | some (.str documentation) =>
    if documentation.isEmpty then (.ok metadata, number)
    else
      let (outcome, next) := infer s number reference documentation
      (outcome.map fun inferred =>
        (metadata.putAll inferred).put (.str "documentation") (.str (rewrite documentation)), next)
  | _ => (.ok metadata, number)

/-- The entities with all derived fields; the numbers of their examples go on from
entity to entity. -/
def deriveAll (s : Settings) (number : Nat) : List Entity → Except Failure (List Entity)
  | [] => .ok []
  | e :: es =>
    match deriveMetadata s number e.reference e.metadata with
    | (.error f, _) => .error f
    | (.ok metadata, next) => (deriveAll s next es).map ({ e with metadata } :: ·)

end AnnotatedMarkdown.Inference
