import AnnotatedMarkdown.Text.CodePoint

/-!
# Field names

A field whose name starts with a tilde is special: it holds an expression.  The tilde is
not a part of the name that the field has in metadata.
-/

namespace AnnotatedMarkdown.Field

/-- The mark of a special field. -/
def mark : CodePoint := .scalar '~'

/-- Whether a field is special. -/
def isSpecial (written : Text) : Bool :=
  written.head? == some mark

/-- The name of a field without its mark. -/
def name (written : Text) : Text :=
  if isSpecial written then written.tail else written

theorem name_mark (rest : Text) : name (mark :: rest) = rest := by
  simp [name, isSpecial]

theorem name_of_not_isSpecial {written : Text} (h : isSpecial written = false) :
    name written = written := by
  simp [name, h]

end AnnotatedMarkdown.Field
