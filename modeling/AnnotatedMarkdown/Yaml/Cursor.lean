import AnnotatedMarkdown.Diagnostic

/-!
# Reading YAML text

A `Cursor` is a place in a text: the characters from there on, and where they stand.
This module holds what all parts of the lexical analysis need: the classes of
characters, and the steps of a cursor over characters and line breaks.
-/

namespace AnnotatedMarkdown.Yaml

/-- Why a text is no document: it breaks a rule of the language, or it is beyond what is
reported. -/
inductive Fault where
  | malformed
  | defect (d : Defect)
  deriving DecidableEq

/-! ## Characters -/

/-- Whether a character may stand in a document at all. -/
def isAllowed (c : Char) : Bool :=
  let n := c.toNat
  n == 9 || n == 10 || n == 13 || (0x20 ≤ n && n ≤ 0x7E) || n == 0x85 || (0xA0 ≤ n && n ≤ 0xFFFD)
    || 0x10000 ≤ n

/-- Whether a character breaks a line. -/
def isBreak (c : Char) : Bool :=
  c == '\r' || c == '\n' || c == '\x85' || c == '\u2028' || c == '\u2029'

/-- Whether a character separates tokens. -/
def isGap (c : Char) : Bool :=
  c == ' ' || c == '\t' || isBreak c

/-- Whether a character belongs to a name. -/
def isNameChar (c : Char) : Bool :=
  c.isAlphanum || c == '-' || c == '_'

/-- Whether the next character is absent or satisfies a property. -/
def endsBefore (p : Char → Bool) (cs : List Char) : Bool :=
  cs.head?.all p

/-- Whether a separation or the end of the text follows. -/
def gapFollows (cs : List Char) : Bool :=
  endsBefore isGap cs

/-- Whether a space, a line break or the end of the text follows. -/
def wordEnds (cs : List Char) : Bool :=
  endsBefore (fun c => c == ' ' || isBreak c) cs

/-- Whether a line break or the end of the text follows. -/
def lineEnds (cs : List Char) : Bool :=
  endsBefore isBreak cs

/-- Whether a line starts with three given characters and a separation. -/
def startsWithMark (mark : Char) (cs : List Char) : Bool :=
  match cs with
  | a :: b :: c :: rest => a == mark && b == mark && c == mark && gapFollows rest
  | _ => false

/-- Whether a line starts with the mark of a new document or of the end of one. -/
def startsWithDocumentMark (cs : List Char) : Bool :=
  startsWithMark '-' cs || startsWithMark '.' cs

/-! ## Cursors -/

/-- A place in a text. -/
structure Cursor where
  rest : List Char
  index : Nat
  line : Nat
  column : Nat

namespace Cursor

/-- The start of a text. -/
def start (cs : List Char) : Cursor :=
  ⟨cs, 0, 0, 0⟩

/-- The place after one character.  A byte order mark has no width. -/
def advance (c : Cursor) : Cursor :=
  match c.rest with
  | [] => c
  | d :: rest =>
    if isBreak d && !(d == '\r' && rest.head? == some '\n') then ⟨rest, c.index + 1, c.line + 1, 0⟩
    else ⟨rest, c.index + 1, c.line, if d == '\ufeff' || isBreak d then c.column else c.column + 1⟩

/-- The place after several characters. -/
def skip (c : Cursor) : (count : Nat) → Cursor
  | 0 => c
  | count + 1 => c.advance.skip count

/-- The characters that satisfy a property, and the place after them. -/
def takeWhile (c : Cursor) (p : Char → Bool) : List Char × Cursor :=
  let taken := c.rest.takeWhile p
  (taken, c.skip taken.length)

/-- The place after the characters that satisfy a property. -/
def dropWhile (c : Cursor) (p : Char → Bool) : Cursor :=
  (c.takeWhile p).2

/-- The place after spaces. -/
def skipSpaces (c : Cursor) : Cursor :=
  c.dropWhile (· == ' ')

/-- The place after spaces that are left of a column. -/
def skipIndent (column : Nat) (c : Cursor) : Cursor :=
  c.skip (min (column - c.column) ((c.rest.takeWhile (· == ' ')).length))

/-- The line break at a place, of which most are read as line feeds, and the place after
it. -/
def lineBreak? (c : Cursor) : Option (Char × Cursor) :=
  match c.rest with
  | [] => none
  | d :: rest =>
    if d == '\u2028' || d == '\u2029' then some (d, c.advance)
    else if isBreak d then
      some ('\n', if d == '\r' && rest.head? == some '\n' then c.skip 2 else c.advance)
    else none

/-- The place after a line break, if there is one. -/
def skipBreak (c : Cursor) : Cursor :=
  (c.lineBreak?.map Prod.snd).getD c

/-- The place after a comment, if there is one. -/
def skipComment (c : Cursor) : Cursor :=
  if c.rest.head? == some '#' then c.dropWhile (!isBreak ·) else c

/-- The place after the rest of a line, which may hold a comment only. -/
def skipRestOfLine (c : Cursor) : Except Fault Cursor :=
  let c := c.skipSpaces.skipComment
  if lineEnds c.rest then .ok c.skipBreak else .error .malformed

end Cursor

end AnnotatedMarkdown.Yaml
