import AnnotatedMarkdown.Compilation
import AnnotatedMarkdown.Journal.Message

/-!
# Notices

What a compilation says about its progress.  `notices` lists it for a text: each stage
speaks when its part is done, so that a failure cuts the list short.
-/

namespace AnnotatedMarkdown

open Inference Generation

/-- What is said about the progress of a compilation. -/
inductive Notice where
  | compiling (path : Text)
  | found (entities : Nat)
  | parsed (fields : Nat) (reference : Text)
  | inferred (examples : Nat) (reference : Text)
  | emitting (statements : Nat)
  | written (path : Text)
  deriving DecidableEq

namespace Notice

/-- The stage that speaks. -/
def stage : Notice → Text
  | compiling _ => "compiler"
  | found _ => "parsing"
  | parsed _ _ => "metadata"
  | inferred _ _ => "inference"
  | emitting _ => "codegen"
  | written _ => "cli"

/-- The level of a notice. -/
def level : Notice → Level
  | written _ => .info
  | _ => .debug

/-- The wording of a notice. -/
def text : Notice → Text
  | compiling path => Text.concat ["Compiling ", path]
  | found n => Text.concat ["Found ", .ofNat n, " annotated entities"]
  | parsed n reference => Text.concat ["Parsed ", .ofNat n, " metadata fields for ", reference]
  | inferred n reference => Text.concat ["Inferred ", .ofNat n, " example(s) for ", reference]
  | emitting n => Text.concat ["Emitting ", .ofNat n, " attachment statements"]
  | written path => Text.concat ["Generated module written to ", path]

end Notice

/-! ## Compilation -/

/-- What is said about the metadata of records. -/
def analysisNotices : List Record → List Notice
  | [] => []
  | r :: rs =>
    match r.entity with
    | .ok e => .parsed (e.metadata.length - 1) r.reference :: analysisNotices rs
    | .error _ => []

/-- What is said about the examples of an entity. -/
def exampleNotices (e : Entity) : List Notice :=
  match e.metadata.get? (.str "documentation") with
  | some (.str documentation) =>
    let examples := if documentation.isEmpty then [] else Markdown.examples documentation
    if examples.isEmpty then [] else [.inferred examples.length e.reference]
  | _ => []

/-- What is said while metadata are derived. -/
def derivationNotices (s : Settings) (number : Nat) : List Entity → List Notice
  | [] => []
  | e :: es =>
    exampleNotices { e with metadata := inferDeprecated e.metadata } ++
      match deriveMetadata s number e.reference e.metadata with
      | (.ok _, next) => derivationNotices s next es
      | (.error _, _) => []

/-- What is said while statements are made. -/
def emissionNotices (entities : List Entity) : List Notice :=
  match moduleStatements entities with
  | .ok _ => [.emitting entities.length]
  | .error _ => []

/-- What is said while a text is compiled. -/
def notices (options : Options) (source : Text) : List Notice :=
  match Record.ofText source with
  | .error _ => []
  | .ok records =>
    .found records.length :: analysisNotices records ++
      match analyse records with
      | .error _ => []
      | .ok entities =>
        derivationNotices options.settings 1 entities ++
          match deriveAll options.settings 1 entities with
          | .error _ => []
          | .ok entities => emissionNotices entities

end AnnotatedMarkdown
