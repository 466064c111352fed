import AnnotatedMarkdown.Python.Literal

/-!
# Format strings of Python

The body of a format string is a sequence of texts and replacement fields.
`literalRun` finds the end of a text and `fieldEnd` the end of the expression of a
field; `readPieces` reads a body, given a reader of expressions.  The format
specification of a field is read in the same way, and fields nest twice at most.
-/

namespace AnnotatedMarkdown.Python

/-- A part of a format string. -/
inductive Piece where
  | text (t : Text)
  | field (e : Expr)

/-- Why the body of a format string cannot be read: it is malformed, or the expression
of a field is; then the expression and what follows it are told. -/
inductive PieceFault where
  | malformed
  | expression (source rest : List Char)

/-- What has been read, where reading is possible. -/
def wellFormed : Option α → Except PieceFault α
  | some a => .ok a
  | none => .error .malformed

/-- Puts characters in front of the first component. -/
def prepend (front : List Char) (r : Option (List Char × α)) : Option (List Char × α) :=
  r.map fun (cs, rest) => (front ++ cs, rest)

/-- The text in front of a replacement field or of the end.  At the top level a
doubled brace stands for one and ends the run, which the flag tells, and a lone
closing brace is refused.  Braces in the escape of a named character do not count. -/
def literalRun (isRaw isTop : Bool) :
    (inName : Bool) → List Char → Option (List Char × Bool × List Char)
  | _, [] => some ([], false, [])
  | true, c :: cs => prepend [c] (literalRun isRaw isTop (c != '}') cs)
  | false, c :: cs =>
    if c == '{' || c == '}' then
      if isTop then
        match cs with
        | d :: rest =>
          if d == c then some ([c], true, rest)
          else if c == '}' then none else some ([], false, c :: d :: rest)
        | [] => if c == '}' then none else some ([], false, [c])
      else some ([], false, c :: cs)
    else if !isRaw && c == '\\' then
      match cs with
      | [] => some ([c], false, [])
      | d :: rest =>
        if d == 'N' then
          match rest with
          | e :: rest => prepend [c, d, e] (literalRun isRaw isTop (e == '{') rest)
          | [] => some ([c, d], false, [])
        else if d == '{' || d == '}' then prepend [c] (literalRun isRaw isTop false (d :: rest))
        else prepend [c, d] (literalRun isRaw isTop false rest)
    else prepend [c] (literalRun isRaw isTop false cs)

/-- The expression of a field and what follows it, from the character that ends it.
Quotes and brackets are matched; a backslash or a comment is refused. -/
def fieldEnd : (quote : Option (Char × Bool)) → (brackets : List Char) → List Char →
    Option (List Char × List Char)
  | _, _, [] => none
  | some (q, isLong), brackets, c :: cs =>
    if c == '\\' then none
    else if c == q then
      if isLong then
        match cs with
        | a :: b :: rest =>
          if a == q && b == q then prepend [c, a, b] (fieldEnd none brackets rest)
          else prepend [c] (fieldEnd (some (q, true)) brackets (a :: b :: rest))
        | _ => none
      else prepend [c] (fieldEnd none brackets cs)
    else prepend [c] (fieldEnd (some (q, isLong)) brackets cs)
  | none, brackets, c :: cs =>
    if c == '\\' || c == '#' then none
    else if c == '\'' || c == '"' then
      match cs with
      | a :: b :: rest =>
        if a == c && b == c then prepend [c, a, b] (fieldEnd (some (c, true)) brackets rest)
        else prepend [c] (fieldEnd (some (c, false)) brackets (a :: b :: rest))
      | rest => prepend [c] (fieldEnd (some (c, false)) brackets rest)
    else if c == '[' || c == '{' || c == '(' then
      if 200 ≤ brackets.length then none
      else prepend [c] (fieldEnd none (c :: brackets) cs)
    else if brackets.isEmpty && (['!', ':', '}', '=', '>', '<'].contains c) then
      match cs with
      | d :: rest =>
        if d == '=' && (c == '!' || c == '=' || c == '<' || c == '>') then
          prepend [c, d] (fieldEnd none brackets rest)
        else if c == '>' || c == '<' then prepend [c] (fieldEnd none brackets (d :: rest))
        else some ([], c :: d :: rest)
      | [] => if c == '>' || c == '<' then none else some ([], [c])
    else if c == ']' || c == '}' || c == ')' then
      match brackets with
      | [] => none
      | o :: brackets =>
        if (o == '(' && c == ')') || (o == '[' && c == ']') || (o == '{' && c == '}') then
          prepend [c] (fieldEnd none brackets cs)
        else none
    else prepend [c] (fieldEnd none brackets cs)

/-- Whether a character is white space inside an expression. -/
def isFieldBlank (c : Char) : Bool :=
  c == ' ' || c == '\t' || c == '\n' || c == '\x0c'

/-- Whether a character is ASCII white space. -/
def isAsciiBlank (c : Char) : Bool :=
  c == ' ' || (9 ≤ c.toNat && c.toNat ≤ 13)

/-- Joins neighbouring texts and leaves empty ones out. -/
def joinPieces (unicodeMark : Bool) (pieces : List Piece) : List Expr :=
  let constant (t : Text) : List Expr :=
    if t.isEmpty then [] else [.constant (.string t unicodeMark)]
  let rec go (pending : Text) : List Piece → List Expr
    | [] => constant pending
    | .text t :: rest => go (pending ++ t) rest
    | .field e :: rest => constant pending ++ e :: go [] rest
  go [] pieces

/-- What the readers of format strings are given: a reader of expressions, whether
the literal is raw, whether it bears the mark `u`, and whether a field may show its
own text. -/
structure FieldContext where
  compile : List Char → Option Expr
  isRaw : Bool
  unicodeMark : Bool
  selfDocumenting : Bool

/-- A reader of pieces at the front of a text. -/
abbrev PieceReader := List Char → Except PieceFault (List Piece × List Char)

/-- A mark `=` after an expression with the white space after it. -/
def showsItself (cs : List Char) : Option (List Char × List Char) :=
  match cs with
  | '=' :: rest => some ('=' :: rest.takeWhile isAsciiBlank, rest.dropWhile isAsciiBlank)
  | _ => none

/-- The conversion after an expression; the outer option tells a wrong one. -/
def conversion? (cs : List Char) : Option (Option Conversion × List Char) :=
  match cs with
  | '!' :: 's' :: rest => some (some .str, rest)
  | '!' :: 'r' :: rest => some (some .repr, rest)
  | '!' :: 'a' :: rest => some (some .ascii, rest)
  | '!' :: _ => none
  | _ => some (none, cs)

/-- A replacement field after its opening brace. -/
def replacementField (context : FieldContext) (spec : PieceReader) (cs : List Char) :
    Except PieceFault (List Piece × List Char) := do
  let (expression, rest) ← wellFormed (fieldEnd none [] cs)
  if expression.all isFieldBlank then throw .malformed
  let value ←
    match context.compile expression with
    | some e => pure e
    | none => throw (.expression expression rest)
  let (shown, rest) :=
    match showsItself rest with
    | some (mark, rest) => (some (expression ++ mark), rest)
    | none => (none, rest)
  if shown.isSome && !context.selfDocumenting then throw .malformed
  let (conversion, rest) ← wellFormed (conversion? rest)
  let (format, rest) ←
    match rest with
    | ':' :: [] => throw .malformed
    | ':' :: rest => (spec rest).map fun (pieces, rest) =>
        (some (Expr.joined (joinPieces context.unicodeMark pieces)), rest)
    | _ => pure (none, rest)
  let conversion :=
    if shown.isSome && format.isNone && conversion.isNone then some .repr else conversion
  match rest with
  | '}' :: rest =>
    let text := shown.map fun cs => Piece.text (.ofChars cs)
    return (text.toList ++ [.field (.formatted value conversion format)], rest)
  | _ => throw .malformed

/-- The pieces up to the end, or below the top level up to a closing brace. -/
def readPieces (context : FieldContext) (isTop : Bool) (field : PieceReader) :
    (steps : Nat) → List Char → Except PieceFault (List Piece × List Char)
  | 0, _ => throw .malformed
  | steps + 1, cs => do
    let (run, doubled, rest) ← wellFormed (literalRun context.isRaw isTop false cs)
    let text ← wellFormed (stringText? context.isRaw run)
    if doubled then
      let (pieces, rest) ← readPieces context isTop field steps rest
      return (.text text :: pieces, rest)
    else
      match rest with
      | '{' :: rest =>
        let (fields, rest) ← field rest
        let (pieces, rest) ← readPieces context isTop field steps rest
        return (.text text :: fields ++ pieces, rest)
      | _ => return ([.text text], rest)

/-- The pieces of a specification within a specification: no fields. -/
def innerSpec (context : FieldContext) : PieceReader := fun cs =>
  readPieces context false (fun _ => throw .malformed) (cs.length + 1) cs

/-- The pieces of a format specification. -/
def outerSpec (context : FieldContext) : PieceReader := fun cs =>
  readPieces context false (replacementField context (innerSpec context)) (cs.length + 1) cs

/-- The pieces of the body of a format string. -/
def formatPieces (context : FieldContext) (body : List Char) :
    Except PieceFault (List Piece) := do
  let (pieces, rest) ←
    readPieces context true (replacementField context (outerSpec context)) (body.length + 1) body
  if rest.isEmpty then return pieces else throw .malformed

end AnnotatedMarkdown.Python
