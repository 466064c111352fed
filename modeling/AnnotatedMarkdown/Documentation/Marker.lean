import AnnotatedMarkdown.Text.Blank
import AnnotatedMarkdown.Text.Pattern

/-!
# Example markers

Two colons at the end of a heading or a paragraph mark the code after it as an example.
`isLead` recognises the mark and `exampleName` takes it off a heading.  `rewrite` takes
the marks off the lines of a documentation text: a line of two colons becomes empty, and
two or more colons at the end of a line become one.
-/

namespace AnnotatedMarkdown.Documentation

/-- Whether a code point is a colon. -/
def isColon (c : CodePoint) : Bool :=
  c == .scalar ':'

/-- The mark of an example. -/
def marker : Text :=
  "::"

/-- Whether a text ends in a marker, blanks aside. -/
def isLead (t : Text) : Bool :=
  marker.isSuffixOf t.trimEnd

/-- The name of an example under a heading: the heading without its marker.  An example
under no heading has no name. -/
def exampleName : Option Text → Text
  | none => []
  | some heading =>
    let t := heading.trimEnd
    if isLead heading then Text.trimEnd (t.take (t.length - marker.length)) else t

/-! ## Rewriting -/

/-- Whether a code point is a space or a tab. -/
def isGap (c : CodePoint) : Bool :=
  c == .scalar ' ' || c == .scalar '\t'

/-- A line that is a marker. -/
def markerLine : Text.Pattern :=
  [.lineStart, .one isColon, .one isColon, .lineEnd]

/-- Two or more colons at the end of a line, and the gap behind them. -/
def trailingMarker : Text.Pattern :=
  [.one isColon, .one isColon, .many isColon, .many isGap, .lineEnd]

/-- A documentation text without its markers. -/
def rewrite (t : Text) : Text :=
  Text.replace trailingMarker ":" (Text.replace markerLine [] t)

end AnnotatedMarkdown.Documentation
