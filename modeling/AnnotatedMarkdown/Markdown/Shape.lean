import AnnotatedMarkdown.Markdown.Html
import AnnotatedMarkdown.Markdown.LinkDefinition

/-!
# Shapes of blocks

A block is recognised from its first line and takes a number of lines.  `shapeOf` tells
which shape the block at the front of some lines has and how many lines it takes.  For a
block quote or a list that depends on the blocks within it, so `shapeOf` is given a
`Walker` for them; `walker` makes one for a number of levels of nesting.
-/

namespace AnnotatedMarkdown.Markdown

/-- Where blocks are read: the column at which they start, and the column of the list
that contains them. -/
structure Region where
  indent : Int
  listIndent : Option Int

/-- What is around a line that may start a block. -/
inductive Surrounding where
  | paragraph
  | definition
  | quote
  | list
  deriving DecidableEq

namespace Region

/-- The region outside all containers. -/
def outermost : Region :=
  ⟨0, none⟩

/-- Whether a line is indented as code is. -/
def isCode (r : Region) (l : Line) : Bool :=
  r.indent + 4 ≤ l.column

/-- Whether a line starts to the left of a region. -/
def isOutside (r : Region) (l : Line) : Bool :=
  l.column < r.indent

end Region

/-! ## Opening lines -/

/-- The mark and the length of a fence, and what follows it. -/
def fence? (r : Region) (l : Line) : Option (Char × Nat × Text) :=
  if r.isCode l then none
  else
    match l.content with
    | .scalar c :: _ =>
      let (run, info) := l.content.spanBy (· == .scalar c)
      if (c == '~' || c == '\x60') && 3 ≤ run.length
          && !(c == '\x60' && info.contains (.scalar c)) then
        some (c, run.length, info)
      else none
    | _ => none

/-- What follows the mark of a block quote. -/
def afterQuoteMark? (t : Text) : Option Text :=
  Text.after? ">" t

/-- Whether a line opens a block quote. -/
def opensQuote (r : Region) (l : Line) : Bool :=
  !r.isCode l && (afterQuoteMark? l.content).isSome

/-- Whether a line is a thematic break: three equal marks at least, with spacing. -/
def isBreak (r : Region) (l : Line) : Bool :=
  !r.isCode l &&
    match l.content with
    | .scalar c :: t =>
      (c == '*' || c == '-' || c == '_') && t.all (fun d => d == .scalar c || isSpacing d)
        && 2 ≤ t.count (.scalar c)
    | _ => false

/-- The mark of a list item, its length, and its number if it has one. -/
structure ItemMark where
  mark : Char
  length : Nat
  number : Option Nat

/-- Whether spacing or nothing follows the mark of a list item. -/
def markEnds : Text → Bool
  | [] => true
  | c :: _ => isSpacing c

/-- The mark of a list item: one to nine digits with a point or a parenthesis, or a
bullet. -/
def itemMark? (t : Text) : Option ItemMark :=
  match t with
  | .scalar c :: rest =>
    if c.isDigit then
      let digits := t.takeWhile (·.satisfies Char.isDigit)
      match t.drop digits.length with
      | .scalar d :: rest =>
        if digits.length ≤ 9 && (d == '.' || d == ')') && markEnds rest then
          let number := digits.foldl (fun n c => n * 10 + (c.val - 48)) 0
          some ⟨d, digits.length + 1, some number⟩
        else none
      | _ => none
    else if (c == '*' || c == '-' || c == '+') && markEnds rest then some ⟨c, 1, none⟩
    else none
  | _ => none

/-- Whether a list is ordered. -/
def ItemMark.isOrdered (m : ItemMark) : Bool :=
  m.number.isSome

/-- The mark of the first item of a list.  A line that is indented far beyond a list, but
not as far as its items, goes on with a paragraph.  Only a list that starts with 1 or a
bullet, and whose first item is not empty, ends a paragraph. -/
def listMark? (r : Region) (surrounding : Option Surrounding) (l : Line) : Option ItemMark :=
  if r.isCode l || (r.listIndent.any (fun n => n + 4 ≤ l.column) && r.isOutside l) then none
  else
    match itemMark? l.content with
    | none => none
    | some m =>
      let inParagraph := surrounding = some .paragraph && !r.isOutside l
      let startsList := m.number.all (· == 1) && !(l.content.drop m.length).all isSpacing
      if inParagraph && !startsList then none else some m

/-- The kind of the HTML block that a line opens. -/
def htmlKind? (r : Region) (l : Line) : Option HtmlKind :=
  if r.isCode l then none else HtmlKind.ofContent? l.content

/-- The text of a heading: the marks after it are left out if spacing precedes them. -/
def heading? (r : Region) (l : Line) : Option Text :=
  let marks := l.content.takeWhile (· == .scalar '#')
  let t := l.content.drop marks.length
  if r.isCode l || marks.isEmpty || 6 < marks.length || !markEnds t then none
  else
    let t := Text.trimEndBy isSpacing t
    let cut := Text.trimEndBy (· == .scalar '#') t
    some (Text.trim (if cut.getLast?.any isSpacing then cut else t))

/-- Whether a line starts a block that ends what is around it. -/
def interrupts (r : Region) (surrounding : Surrounding) (l : Line) : Bool :=
  (fence? r l).isSome || opensQuote r l || isBreak r l
    || (surrounding ≠ .list
      && ((listMark? r (some surrounding) l).isSome || (htmlKind? r l).any HtmlKind.interrupts
        || (heading? r l).isSome))

/-- Whether a line goes on with the paragraph before it. -/
def continues (r : Region) (surrounding : Surrounding) (l : Line) : Bool :=
  !l.isEmpty && (r.isCode l || l.column < 0 || !interrupts r surrounding l)

/-! ## Shapes -/

/-- The shape of a block. -/
inductive Shape where
  | code
  | fence (indent : Nat) (isClosed : Bool)
  | quote
  | thematicBreak
  | list (isOrdered : Bool)
  | definition
  | html
  | heading (text : Text)
  | underlined
  | paragraph
  deriving DecidableEq

/-- The lines of a document from a place on, with the number of those that belong to the
enclosing blocks and of those that may start a block here. -/
structure Span where
  lines : List Line
  reach : Nat
  limit : Nat

/-- The lines of a document that may continue a block. -/
def Span.within (s : Span) : List Line :=
  s.lines.take s.limit

/-- Tells how many lines the blocks of a region take. -/
def Walker := Region → Span → Nat

/-- The number of lines of a code block: empty lines at its end do not count. -/
def codeLines (r : Region) : List Line → Nat
  | [] => 0
  | l :: ls =>
    if l.isEmpty then
      match codeLines r ls with
      | 0 => 0
      | n + 1 => n + 2
    else if r.isCode l then codeLines r ls + 1
    else 0

/-- Whether a line closes a fence. -/
def closesFence (r : Region) (mark : Char) (length : Nat) (l : Line) : Bool :=
  let (run, rest) := l.content.spanBy (· == .scalar mark)
  !r.isCode l && length ≤ run.length && rest.all isSpacing

/-- The number of lines between a fence and the one that closes it, and whether there is
one. -/
def fenceLines (r : Region) (mark : Char) (length : Nat) : List Line → Nat × Bool
  | [] => (0, false)
  | l :: ls =>
    if !l.isEmpty && r.isOutside l then (0, false)
    else if closesFence r mark length l then (0, true)
    else
      let (n, closed) := fenceLines r mark length ls
      (n + 1, closed)

/-- The number of lines of an HTML block after its first one. -/
def htmlLines (r : Region) (kind : HtmlKind) : List Line → Nat
  | [] => 0
  | l :: ls =>
    if r.isOutside l then 0
    else if kind.closes l.content then if l.content.isEmpty then 0 else 1
    else htmlLines r kind ls + 1

/-- Whether a line underlines a heading. -/
def isUnderline (t : Text) : Bool :=
  match t with
  | .scalar c :: _ => (c == '-' || c == '=') && (t.dropWhile (· == .scalar c)).all isSpacing
  | _ => false

/-- The number of lines up to the one that underlines a heading, if there is one. -/
def underlineAfter? (r : Region) : List Line → Option Nat
  | [] => none
  | l :: ls =>
    if l.isEmpty then none
    else if !r.isCode l && !r.isOutside l && isUnderline l.content then some 0
    else if continues r .paragraph l then (underlineAfter? r ls).map (· + 1)
    else none

/-! ## Block quotes -/

/-- A line within a block quote, without the mark of the quote and a space after it. -/
def unquote (l : Line) : Line :=
  let rest := l.content.drop 1
  let column := l.column.toNat + 1
  let isTab := rest.head? == some (.scalar '\t')
  let isWide := isTab && (l.base + column) % 4 != 3
  let isSpaced := isTab || rest.head? == some (.scalar ' ')
  let taken := if isSpaced && !isWide then 1 else 0
  let text := rest.drop taken
  let spacing := text.takeWhile isSpacing
  let start := column + taken
  let stop := columnAfter (l.base + if isWide then 1 else 0) start spacing
  { l with
    text
    shift := spacing.length
    column := (stop : Int) - start
    base := column + if isSpaced then 1 else 0 }

/-- The lines of a block quote as they are within it, whether a block ends it, and the
lines after it; `emptyBefore` tells that the line before has no content. -/
def quoteLines (r : Region) (emptyBefore : Bool) : List Line → List Line × Bool
  | [] => ([], false)
  | l :: ls =>
    if l.isEmpty then ([], false)
    else if (afterQuoteMark? l.content).isSome && !r.isOutside l then
      let inner := unquote l
      let (rest, ended) := quoteLines r inner.isEmpty ls
      (inner :: rest, ended)
    else if emptyBefore then ([], false)
    else if interrupts r .quote l then ([], true)
    else
      let (rest, ended) := quoteLines r emptyBefore ls
      ({ l with column := -1 } :: rest, ended)

/-- The number of lines of a block quote. -/
def quoteSpan (inner : Walker) (r : Region) (s : Span) : Nat :=
  let (quoted, ended) := quoteLines r true s.within
  let count := quoted.length
  inner { r with indent := 0 }
    ⟨quoted ++ s.lines.drop count, if ended then count else s.reach, count⟩

/-! ## Lists -/

/-- A line as the first one of a list item, and the column of the item. -/
def itemLine (l : Line) (m : ItemMark) : Line × Int :=
  let rest := l.content.drop m.length
  let spacing := rest.takeWhile isSpacing
  let start := l.column.toNat + m.length
  let stop := columnAfter l.base start spacing
  let width := if spacing.length = rest.length || start + 4 < stop then 1 else stop - start
  ({ l with shift := l.shift + m.length + spacing.length, column := stop }, start + width)

/-- The number of lines of a list item whose first line has a mark.  An empty item takes
an empty line after it. -/
def itemSpan (inner : Walker) (r : Region) (m : ItemMark) (s : Span) : Nat :=
  match s.lines with
  | [] => 0
  | l :: ls =>
    let (first, indent) := itemLine l m
    if first.isEmpty && ls.head?.all Line.isEmpty then min 2 s.limit
    else inner ⟨indent, some r.indent⟩ { s with lines := first :: ls }

/-- The number of lines of a list whose next item has a mark. -/
def listSpan (inner : Walker) (r : Region) : (items : Nat) → ItemMark → Span → Nat
  | 0, _, _ => 0
  | items + 1, m, s =>
    let n := itemSpan inner r m s
    let rest : Span := ⟨s.lines.drop n, s.reach - n, s.limit - n⟩
    match rest.within with
    | [] => n
    | l :: _ =>
      if r.isOutside l || r.isCode l || interrupts r .list l then n
      else
        match itemMark? l.content with
        | some next =>
          if next.mark = m.mark && next.isOrdered = m.isOrdered then
            n + listSpan inner r items next rest
          else n
        | none => n

/-! ## Recognition -/

/-- The contents of the lines that can go on with a link definition. -/
def definitionContents (r : Region) (ls : List Line) : List Text :=
  (ls.takeWhile (continues r .definition)).map fun l =>
    l.content ++ if l.isEnded then [.scalar '\n'] else []

/-- The shape of the block that starts with a line, and the number of its lines.
`quoteWalker` and `listWalker` read what is within block quotes and lists. -/
def shapeOf (quoteWalker listWalker : Walker) (r : Region) (s : Span) (l : Line) (ls : List Line) :
    Shape × Nat :=
  let within := ls.take (s.limit - 1)
  let reachable := ls.take (s.reach - 1)
  if r.isCode l then (.code, codeLines r within + 1)
  else
    match fence? r l with
    | some (mark, length, _) =>
      let (n, closed) := fenceLines r mark length within
      (.fence l.column.toNat closed, n + if closed then 2 else 1)
    | none =>
      if opensQuote r l then (.quote, quoteSpan quoteWalker r s)
      else if isBreak r l then (.thematicBreak, 1)
      else
        match listMark? r none l with
        | some m => (.list m.isOrdered, listSpan listWalker r s.limit m s)
        | none =>
          match linesOfDefinition? (l.content ++ if l.isEnded then [.scalar '\n'] else [])
              (definitionContents r reachable) with
          | some n => (.definition, n)
          | none =>
            match htmlKind? r l, heading? r l with
            | some kind, _ =>
              (.html, if kind.closes l.content then 1 else htmlLines r kind within + 1)
            | none, some text => (.heading text, 1)
            | none, none =>
              match underlineAfter? r within with
              | some n => (.underlined, n + 2)
              | none => (.paragraph, (reachable.takeWhile (continues r .paragraph)).length + 1)

/-! ## Walking -/

/-- The number of empty lines at the front of a span. -/
def Span.emptyLines (s : Span) : Nat :=
  ((s.lines.take s.reach).takeWhile Line.isEmpty).length

/-- Takes all lines from the first one with content on as one block. -/
def exhausted : Walker := fun r s =>
  if s.limit ≤ s.emptyLines || (s.lines.drop s.emptyLines).head?.any r.isOutside then s.emptyLines
  else s.limit

/-- The number of lines of the blocks at the front of a span, of which there are at most
a number.  The blocks end before a line that starts to the left of the region. -/
def walkBlocks (quoteWalker listWalker : Walker) (r : Region) : (blocks : Nat) → Span → Nat
  | 0, _ => 0
  | blocks + 1, s =>
    if s.limit = 0 then 0
    else
      let skipped := s.emptyLines
      match s.lines.drop skipped with
      | [] => skipped
      | l :: ls =>
        if s.limit ≤ skipped || r.isOutside l then skipped
        else
          let here : Span := ⟨l :: ls, s.reach - skipped, s.limit - skipped⟩
          let (_, n) := shapeOf quoteWalker listWalker r here l ls
          let n := if n < here.limit && ((l :: ls).drop n).head?.all Line.isEmpty then n + 1 else n
          skipped + n
            + walkBlocks quoteWalker listWalker r blocks
              ⟨(l :: ls).drop n, here.reach - n, here.limit - n⟩

/-- The walker for blocks at which some more levels of nesting are allowed.  A block
quote takes one level, and a list two. -/
def walker : (levels : Nat) → Walker
  | 0 => exhausted
  | 1 => fun r s => walkBlocks exhausted exhausted r s.limit s
  | levels + 2 => fun r s => walkBlocks (walker (levels + 1)) (walker levels) r s.limit s

/-- The number of levels of nesting that are read. -/
def maxLevels : Nat := 20

end AnnotatedMarkdown.Markdown
