import AnnotatedMarkdown.Unicode.Table
import AnnotatedMarkdown.Yaml.Cursor

/-!
# The texts of scalars

Scalars are written in five styles: plain, in single or double quotes, and as a literal
or folded block.  Each reader yields the text of a scalar and the place after it.  Line
breaks within plain and quoted scalars are folded: one becomes a space, and of several
the first one is dropped.
-/

namespace AnnotatedMarkdown.Yaml

/-! ## Line folding -/

/-- What a line break and the empty lines after it stand for. -/
def foldBreaks (first : Char) (others : List Char) : List Char :=
  if first ≠ '\n' then first :: others
  else if others.isEmpty then [' ']
  else others

/-! ## Quoted scalars -/

/-- The empty lines at a place and the place after them and after the spacing of the next
line.  No mark of a document may start a line. -/
def quotedBreaks : (steps : Nat) → Cursor → Except Fault (List Char × Cursor)
  | 0, _ => .error .malformed
  | steps + 1, c =>
    if startsWithDocumentMark c.rest then .error .malformed
    else
      let c := c.dropWhile fun d => d == ' ' || d == '\t'
      match c.lineBreak? with
      | none => .ok ([], c)
      | some (d, c) => do
        let (breaks, c) ← quotedBreaks steps c
        return (d :: breaks, c)

/-- What a character after a backslash stands for. -/
def simpleEscape? : Char → Option Char
  | '0' => some '\x00'
  | 'a' => some '\x07'
  | 'b' => some '\x08'
  | 't' => some '\t'
  | '\t' => some '\t'
  | 'n' => some '\n'
  | 'v' => some '\x0b'
  | 'f' => some '\x0c'
  | 'r' => some '\r'
  | 'e' => some '\x1b'
  | ' ' => some ' '
  | '"' => some '"'
  | '\\' => some '\\'
  | '/' => some '/'
  | 'N' => some '\x85'
  | '_' => some '\xa0'
  | 'L' => some '\u2028'
  | 'P' => some '\u2029'
  | _ => none

/-- The number of digits after the letter of a numeric escape. -/
def escapeLength? : Char → Option Nat
  | 'x' => some 2
  | 'u' => some 4
  | 'U' => some 8
  | _ => none

/-- The code point that hexadecimal digits stand for. -/
def escapedPoint (digits : List Char) : Except Fault CodePoint :=
  let n := Unicode.hexNumber digits
  match CodePoint.ofNat? n with
  | some c => .ok c
  | none => .error (.defect (if n < 0x80000000 then .hugeCodePoint else .oversizedCodePoint))

/-- What an escape sequence stands for, and the place after it; the backslash has been
taken. -/
def escape (steps : Nat) (c : Cursor) : Except Fault (Text × Cursor) :=
  match c.rest with
  | [] => .error .malformed
  | d :: rest =>
    match simpleEscape? d, escapeLength? d with
    | some e, _ => .ok ([.scalar e], c.advance)
    | none, some n =>
      let digits := rest.take n
      if digits.length = n && digits.all (fun d => (Unicode.hexDigit? d).isSome) then do
        return ([← escapedPoint digits], c.skip (n + 1))
      else .error .malformed
    | none, none =>
      match c.lineBreak? with
      | some (_, c) => do
        let (breaks, c) ← quotedBreaks steps c
        return (.ofChars breaks, c)
      | none => .error .malformed

/-- The text up to a closing quote and the place after it. -/
def quotedScalar (quote : Char) : (steps : Nat) → Cursor → Except Fault (Text × Cursor)
  | 0, _ => .error .malformed
  | steps + 1, c =>
    match c.rest with
    | [] => .error .malformed
    | d :: rest =>
      let goOn (t : Text) (c : Cursor) : Except Fault (Text × Cursor) := do
        let (u, c) ← quotedScalar quote steps c
        return (t ++ u, c)
      if d == quote then
        if quote == '\'' && rest.head? == some '\'' then goOn "'" (c.skip 2)
        else .ok ([], c.advance)
      else if d == '\\' && quote == '"' then do
        let (t, c) ← escape steps c.advance
        goOn t c
      else if isGap d then
        let (spacing, c) := c.takeWhile fun d => d == ' ' || d == '\t'
        match c.lineBreak? with
        | none => if c.rest.isEmpty then .error .malformed else goOn (.ofChars spacing) c
        | some (first, c) => do
          let (breaks, c) ← quotedBreaks steps c
          goOn (.ofChars (foldBreaks first breaks)) c
      else goOn [.scalar d] c.advance

/-! ## Plain scalars -/

/-- The characters of a plain scalar up to spacing, a comment or an indicator. -/
def plainRun (inFlow : Bool) : List Char → List Char
  | [] => []
  | d :: cs =>
    if isGap d || (inFlow && (d == ',' || d == '?' || d == '[' || d == ']' || d == '{' || d == '}'))
    then []
    else if d == ':' &&
        endsBefore (fun e => isGap e
          || (inFlow && (e == ',' || e == '[' || e == ']' || e == '{' || e == '}'))) cs then []
    else d :: plainRun inFlow cs

/-- The empty lines at a place and the place after them and after the spaces of the next
line; none if the mark of a document starts a line. -/
def plainBreaks : (steps : Nat) → Cursor → Option (List Char) × Cursor
  | 0, c => (some [], c)
  | steps + 1, c =>
    if startsWithDocumentMark c.rest then (none, c)
    else
      let c := c.skipSpaces
      match c.lineBreak? with
      | none => (some [], c)
      | some (d, c) =>
        let (breaks, c) := plainBreaks steps c
        (breaks.map (d :: ·), c)

/-- What lies between two runs of a plain scalar. -/
structure PlainGap where
  text : Option (List Char)
  hasBreak : Bool
  cursor : Cursor

/-- Reads the spaces and line breaks after a run. -/
def plainGap (steps : Nat) (c : Cursor) : PlainGap :=
  let (spaces, c) := c.takeWhile (· == ' ')
  match c.lineBreak? with
  | none => ⟨some spaces, false, c⟩
  | some (first, c) =>
    let (breaks, c) := plainBreaks steps c
    ⟨breaks.map (foldBreaks first), true, c⟩

/-- A plain scalar: its text, whether a line break follows it, and the place after it
and the spacing that follows. -/
structure PlainScalar where
  text : List Char
  endsLine : Bool
  cursor : Cursor

/-- Reads a plain scalar whose lines are indented by a number of columns at least. -/
def plainScalar (inFlow : Bool) (indent : Int) : (steps : Nat) → (gap : List Char) →
    (endsLine : Bool) → Cursor → PlainScalar
  | 0, _, endsLine, c => ⟨[], endsLine, c⟩
  | steps + 1, gap, endsLine, c =>
    let run := if c.rest.head? == some '#' then [] else plainRun inFlow c.rest
    if run.isEmpty then ⟨[], endsLine, c⟩
    else
      let after := plainGap steps (c.skip run.length)
      let ends := after.text.all List.isEmpty || after.cursor.rest.head? == some '#'
        || (!inFlow && (after.cursor.column : Int) < indent)
      if ends then ⟨gap ++ run, after.hasBreak, after.cursor⟩
      else
        let more := plainScalar inFlow indent steps (after.text.getD []) after.hasBreak after.cursor
        ⟨gap ++ run ++ more.text, more.endsLine, more.cursor⟩

/-! ## Block scalars -/

/-- What happens to the line breaks at the end of a block. -/
inductive Chomping where
  | strip
  | clip
  | keep
  deriving DecidableEq

/-- The chomping and the indentation that the head of a block gives, and the place after
the head. -/
def blockHead (c : Cursor) : Except Fault (Chomping × Option Nat × Cursor) := do
  let chomping? (c : Cursor) : Option Chomping :=
    match c.rest with
    | '+' :: _ => some .keep
    | '-' :: _ => some .strip
    | _ => none
  let increment? (c : Cursor) : Except Fault (Option Nat) :=
    match c.rest with
    | d :: _ =>
      if d.isDigit then if d == '0' then .error .malformed else .ok (some (d.toNat - 48))
      else .ok none
    | [] => .ok none
  let (chomping, increment, c) ←
    match chomping? c with
    | some chomping => do
      let c := c.advance
      match ← increment? c with
      | some n => pure (chomping, some n, c.advance)
      | none => pure (chomping, none, c)
    | none => do
      match ← increment? c with
      | some n =>
        let c := c.advance
        match chomping? c with
        | some chomping => pure (chomping, some n, c.advance)
        | none => pure (.clip, some n, c)
      | none => pure (.clip, none, c)
  if wordEnds c.rest then return (chomping, increment, ← c.skipRestOfLine)
  else throw .malformed

/-- The empty lines at the start of a block whose indentation is not given, the largest
column that its spaces reach, and the place after them. -/
def blockStart : (steps : Nat) → (widest : Nat) → Cursor → List Char × Nat × Cursor
  | 0, widest, c => ([], widest, c)
  | steps + 1, widest, c =>
    let c := c.skipSpaces
    let widest := max widest c.column
    match c.lineBreak? with
    | none => ([], widest, c)
    | some (d, c) =>
      let (breaks, widest, c) := blockStart steps widest c
      (d :: breaks, widest, c)

/-- The empty lines of a block with some indentation, and the place after them and after
the indentation of the next line. -/
def blockBreaks (indent : Nat) : (steps : Nat) → Cursor → List Char × Cursor
  | 0, c => ([], c)
  | steps + 1, c =>
    let c := c.skipIndent indent
    match c.lineBreak? with
    | none => ([], c)
    | some (d, c) =>
      let (breaks, c) := blockBreaks indent steps c
      (d :: breaks, c)

/-- Whether a line of a block starts with spacing. -/
def startsWithSpacing (cs : List Char) : Bool :=
  cs.head?.any fun c => c == ' ' || c == '\t'

/-- The lines of a block from a place on, after some empty lines. -/
def blockLines (folded : Bool) (chomping : Chomping) (indent : Nat) :
    (steps : Nat) → (breaks : List Char) → Cursor → List Char × Cursor
  | 0, _, c => ([], c)
  | steps + 1, breaks, c =>
    if c.column ≠ indent || c.rest.isEmpty then
      (if chomping = .keep then breaks else [], c)
    else
      let isSpaced := startsWithSpacing c.rest
      let (line, c) := c.takeWhile (!isBreak ·)
      let first := (c.lineBreak?.map Prod.fst).toList
      let (more, next) := blockBreaks indent steps c.skipBreak
      if next.column = indent && !next.rest.isEmpty then
        let joint :=
          if folded && first = ['\n'] && !isSpaced && !startsWithSpacing next.rest then
            if more.isEmpty then [' '] else []
          else first
        let (t, c) := blockLines folded chomping indent steps more next
        (breaks ++ line ++ joint ++ t, c)
      else
        let tail := if chomping = .strip then [] else first
        (breaks ++ line ++ tail ++ (if chomping = .keep then more else []), next)

/-- The text of a block and the place after it, from the place after its indicator.  The
lines are indented more than the node that holds them. -/
def blockScalar (folded : Bool) (parent : Int) (c : Cursor) : Except Fault (List Char × Cursor) := do
  let (chomping, increment, c) ← blockHead c
  let least := (max 1 (parent + 1)).toNat
  let steps := c.rest.length + 1
  match increment with
  | some n =>
    let indent := least + n - 1
    let (breaks, c) := blockBreaks indent steps c
    return blockLines folded chomping indent steps breaks c
  | none =>
    let (breaks, widest, c) := blockStart steps 0 c
    return blockLines folded chomping (max least widest) steps breaks c

end AnnotatedMarkdown.Yaml
