import AnnotatedMarkdown.Documentation.Example
import AnnotatedMarkdown.Markdown.Shape

/-!
# Blocks of a documentation text

`blocks` reads a documentation text as a Markdown document and yields its top-level
blocks.  Link definitions yield none.
-/

namespace AnnotatedMarkdown.Markdown

open Documentation

/-- The block that some lines make in a shape. -/
def blockOf (shape : Shape) (lines : List Line) : Option Block :=
  match shape with
  | .code => some (.code (contents 4 false lines ++ [.scalar '\n']))
  | .fence indent isClosed =>
    let body := lines.drop 1
    some (.code (contents indent true (if isClosed then body.dropLast else body)))
  | .quote => some (.other "blockquote_open")
  | .thematicBreak => some (.other "hr")
  | .list true => some (.other "ordered_list_open")
  | .list false => some (.other "bullet_list_open")
  | .definition => none
  | .html => some (.other "html_block")
  | .heading text => some (.heading text)
  | .underlined => some (.heading (Text.trim (contents 0 false lines.dropLast)))
  | .paragraph => some (.paragraph (Text.trim (contents 0 false lines)))

/-- The blocks at the front of some lines, of which there are at most a number. -/
def blocksOf : (blocks : Nat) → List Line → List Block
  | 0, _ => []
  | blocks + 1, lines =>
    match lines.dropWhile Line.isEmpty with
    | [] => []
    | l :: ls =>
      let count := ls.length + 1
      let (shape, n) :=
        shapeOf (walker (maxLevels - 1)) (walker (maxLevels - 2)) .outermost ⟨l :: ls, count, count⟩
          l ls
      (blockOf shape ((l :: ls).take n)).toList ++ blocksOf blocks ((l :: ls).drop n)

/-- The top-level blocks of a documentation text. -/
def blocks (documentation : Text) : List Block :=
  let lines := documentLines documentation
  blocksOf (lines.length + 1) lines

/-- The examples of a documentation text. -/
def examples (documentation : Text) : List Example :=
  Example.ofBlocks (blocks documentation)

end AnnotatedMarkdown.Markdown
