import AnnotatedMarkdown.Text.Blank

/-!
# Lines of a Markdown document

A line is held together with the place at which its content starts: the number of code
points in front of the content and the column of the content, where a tab reaches to the
next multiple of four.  A container block moves these places for the blocks within it,
so a line can have a base column from which its tabs are measured.
-/

namespace AnnotatedMarkdown.Markdown

/-- A line.  The content starts after `shift` code points, at `column`; a line that
continues a paragraph lazily has a negative column.  `isEnded` tells that a line break
follows. -/
structure Line where
  text : Text
  shift : Nat
  column : Int
  base : Nat
  isEnded : Bool

/-- Whether a code point is a space or a tab. -/
def isSpacing (c : CodePoint) : Bool :=
  c == .scalar ' ' || c == .scalar '\t'

/-- The column after spacing that starts at a column. -/
def columnAfter (base column : Nat) : Text → Nat
  | [] => column
  | c :: t =>
    if c == .scalar '\t' then columnAfter base (column + 4 - (column + base) % 4) t
    else columnAfter base (column + 1) t

namespace Line

/-- The content of a line. -/
def content (l : Line) : Text :=
  l.text.drop l.shift

/-- Whether a line has no content. -/
def isEmpty (l : Line) : Bool :=
  l.content.isEmpty

/-- A line outside all containers. -/
def ofText (text : Text) (isEnded : Bool) : Line :=
  let spacing := text.takeWhile isSpacing
  ⟨text, spacing.length, columnAfter 0 0 spacing, 0, isEnded⟩

end Line

/-! ## Splitting -/

/-- Line breaks of any style as line feeds, and null characters as replacement
characters. -/
def normalize : Text → Text
  | [] => []
  | .scalar '\r' :: .scalar '\n' :: t => .scalar '\n' :: normalize t
  | c :: t =>
    (if c == .scalar '\r' then .scalar '\n'
      else if c == .scalar '\x00' then .scalar '\ufffd'
      else c) :: normalize t

/-- The lines of a document.  A last line of spacing that no line break ends does not
count. -/
def linesOf : List Text → List Line
  | [] => []
  | [text] => if text.all isSpacing then [] else [.ofText text false]
  | text :: texts => .ofText text true :: linesOf texts

/-- The lines of a document. -/
def documentLines (t : Text) : List Line :=
  linesOf ((normalize t).splitBy CodePoint.isLineFeed)

/-! ## Contents -/

/-- A text without its spacing up to a column; of a tab that reaches beyond it, spaces
are left. -/
def outdent (indent column : Nat) : Text → Text
  | [] => []
  | c :: t =>
    if column < indent then
      if c == .scalar '\t' then outdent indent (column + 4 - column % 4) t
      else if c == .scalar ' ' then outdent indent (column + 1) t
      else c :: t
    else List.replicate (column - indent) (.scalar ' ') ++ c :: t

/-- The texts of lines outside all containers with line breaks between them, and after
the last one if `withBreak` holds and there is one. -/
def contents (indent : Nat) (withBreak : Bool) (lines : List Line) : Text :=
  match lines with
  | [] => []
  | [l] => outdent indent 0 l.text ++ (if withBreak && l.isEnded then [.scalar '\n'] else [])
  | l :: ls => outdent indent 0 l.text ++ .scalar '\n' :: contents indent withBreak ls

end AnnotatedMarkdown.Markdown
