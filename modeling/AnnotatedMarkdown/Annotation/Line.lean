import AnnotatedMarkdown.Text.Blank

/-!
# Lines of an annotated text

A marker line opens the record of an entity and names it, a separator line ends the
metadata of a record, and every other line is content.  `splitLines` cuts a text at its
line breaks, of which there are four styles, and `Tag.ofLine` classifies a line.
-/

namespace AnnotatedMarkdown

/-- What a line is: the marker of an entity, a separator, or content.  A last tag
stands for the end of the text. -/
inductive Tag where
  | marker (reference : Text)
  | separator
  | content (text : Text)
  | endOfInput
  deriving DecidableEq

/-- The text in front of a reference. -/
def markerLead : Text :=
  "@annotate:"

/-- A text without one line feed at its end. -/
def withoutFinalLineFeed : Text → Text
  | [] => []
  | [c] => if c.isLineFeed then [] else [c]
  | c :: t => c :: withoutFinalLineFeed t

/-- The reference of a marker line: the rest of the line without blanks around it.  A
line feed may only end the line. -/
def markerReference? (line : Text) : Option Text :=
  match Text.after? markerLead line with
  | none => none
  | some rest =>
    let rest := withoutFinalLineFeed rest
    if rest.any CodePoint.isLineFeed then none else some rest.trim

/-- Whether a line is at least three hyphens, followed by blanks at most. -/
def isSeparator (line : Text) : Bool :=
  let (hyphens, rest) := line.spanBy fun c => c == .scalar '-'
  3 ≤ hyphens.length && rest.isBlank

/-- Classifies a line. -/
def Tag.ofLine (line : Text) : Tag :=
  match markerReference? line with
  | some reference => .marker reference
  | none => if isSeparator line then .separator else .content line

/-! ## Line breaks -/

/-- Adds a code point to the first of several lines. -/
def consToFirst (c : CodePoint) : List Text → List Text
  | [] => [[c]]
  | line :: lines => (c :: line) :: lines

/-- The lines of a text; there is always one.  A line break is a carriage return and a
line feed, in either order, or one of the two. -/
def splitLines : Text → List Text
  | [] => [[]]
  | .scalar '\r' :: .scalar '\n' :: t => [] :: splitLines t
  | .scalar '\n' :: .scalar '\r' :: t => [] :: splitLines t
  | .scalar '\r' :: t => [] :: splitLines t
  | .scalar '\n' :: t => [] :: splitLines t
  | c :: t => consToFirst c (splitLines t)

end AnnotatedMarkdown
