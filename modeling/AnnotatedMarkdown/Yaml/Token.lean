import AnnotatedMarkdown.Text.CodePoint

/-!
# Tokens of YAML text

The marks that structure a document, and the names, tags and scalars between them.
Block collections have marks for their start and end, though the text shows them by
indentation only.
-/

namespace AnnotatedMarkdown.Yaml

/-- A line that precedes a document: the version of the language, of which the major
number is kept, a handle for tags with what it stands for, or one that is ignored. -/
inductive Directive where
  | version (major : Nat)
  | handle (name tagPrefix : Text)
  | ignored
  deriving DecidableEq

/-- A token. -/
inductive Token where
  | directive (d : Directive)
  | documentStart
  | documentEnd
  | sequenceStart
  | mappingStart
  | blockEnd
  | flowSequenceStart
  | flowSequenceEnd
  | flowMappingStart
  | flowMappingEnd
  | flowEntry
  | blockEntry
  | key
  | value
  | alias (name : Text)
  | anchor (name : Text)
  | tag (handle : Option Text) (suffix : Text)
  | scalar (text : Text) (isPlain : Bool)
  deriving DecidableEq

end AnnotatedMarkdown.Yaml
