import AnnotatedMarkdown.Value.Basic

/-!
# Entities

An entity is a reference with the metadata that is attached to what it refers to.
-/

namespace AnnotatedMarkdown

/-- A reference, the number of its marker line, and its metadata. -/
structure Entity where
  reference : Text
  line : Int
  metadata : Entries

end AnnotatedMarkdown
