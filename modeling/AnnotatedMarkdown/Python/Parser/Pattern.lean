import AnnotatedMarkdown.Python.Parser.Expression

/-!
# Parsers of patterns

The patterns of `match` statements.  A constituent pattern is read by the field
`pattern` of the grammar.
-/

namespace AnnotatedMarkdown.Python.Grammar

open AnnotatedMarkdown.Python.Parser

variable (g : Grammar)

/-- The spelling of the wildcard. -/
def wildcard : List Char := ['_']

/-- Whether a lexeme keeps a name from being a capture. -/
def continuesName : Option Lexeme → Bool
  | some (.op .dot) => true
  | some (.op .lPar) => true
  | some (.op .equal) => true
  | _ => false

/-- The target of a capture: a name other than the wildcard. -/
def captureTarget : Parser String := do
  match ← peek with
  | some (.name spelling) =>
    ensure (spelling != wildcard)
    let id ← name
    ensure (!continuesName (← peek))
    return id
  | _ => mismatch

/-- A number with an optional minus sign. -/
def signedNumber : Parser (Expr × Constant) := do
  if ← accept (.op .minus) then
    let c ← g.number
    return (.unary .minus (.constant c), c)
  else
    let c ← g.number
    return (.constant c, c)

/-- Whether a constant is imaginary. -/
def isImaginary : Constant → Bool
  | .imaginary _ => true
  | _ => false

/-- A number, or a complex number of a real and an imaginary part. -/
def numberPattern : Parser Expr := do
  let (real, c) ← g.signedNumber
  match ← peek with
  | some (.op .plus) => complex real c .add
  | some (.op .minus) => complex real c .sub
  | _ => return real
where
  complex (real : Expr) (c : Constant) (op : BinaryOp) : Parser Expr := do
    advance
    let part ← g.number
    if isImaginary c || !isImaginary part then refuse
    return .binary real op (.constant part)

/-- A dotted name. -/
def dottedName : Parser Expr := do
  let first ← name
  let attributes ← many (do op .dot; name)
  return attributes.foldl .attribute (.name first)

/-- Alternatives with bars between them. -/
def orPattern (closed : Parser Pattern) : Parser Pattern := do
  let first ← closed
  let more ← many (do op .vBar; closed)
  return if more.isEmpty then first else .alternatives (first :: more)

/-- A pattern that may be bound to a name. -/
def asPattern (closed : Parser Pattern) : Parser Pattern := do
  let p ← orPattern closed
  if ← accept (.word .as) then
    return .capture (some p) (some (← captureTarget))
  else return p

/-- A starred pattern of a sequence. -/
def starPattern : Parser Pattern := do
  op .star
  match ← peek with
  | some (.name spelling) =>
    if spelling == wildcard then
      advance
      return .star none
    else return .star (some (← captureTarget))
  | _ => mismatch

/-- An element of a sequence pattern. -/
def elementPattern : Parser Pattern := do
  if ← sees (.op .star) then starPattern else g.pattern

/-- What follows an opening parenthesis: a group or a sequence. -/
def afterPatternParenthesis : Parser Pattern := do
  if ← accept (.op .rPar) then
    return .sequence []
  else
    let isStarred ← sees (.op .star)
    let first ← g.elementPattern
    if ← accept (.op .comma) then
      let more ← maybe (commaListTrailing g.elementPattern)
      op .rPar
      return .sequence (first :: (more.map Prod.fst).getD [])
    else if isStarred then mismatch
    else
      op .rPar
      return first

/-- What follows an opening square bracket. -/
def afterPatternBracket : Parser Pattern := do
  if ← accept (.op .rSqb) then
    return .sequence []
  else
    let (elements, _) ← commaListTrailing g.elementPattern
    op .rSqb
    return .sequence elements

/-- The key of a mapping pattern. -/
def mappingKey : Parser Expr := do
  match ← peek with
  | some (.number _) => g.numberPattern
  | some (.op .minus) => g.numberPattern
  | some (.string _) => g.strings
  | some (.word .none) =>
    advance
    return .constant .none
  | some (.word .true) =>
    advance
    return .constant .true
  | some (.word .false) =>
    advance
    return .constant .false
  | some (.name _) =>
    match ← dottedName with
    | .name _ => mismatch
    | e => return e
  | _ => mismatch

/-- An item of a mapping pattern: a key with its pattern, or the rest. -/
def mappingItem : Parser (Expr × Pattern ⊕ String) := do
  if ← accept (.op .doubleStar) then
    return .inr (← captureTarget)
  else
    let key ← g.mappingKey
    op .colon
    return .inl (key, ← g.pattern)

/-- The mapping pattern of a list of items; the rest comes last. -/
def arrangeMapping : List (Expr × Pattern ⊕ String) → Option Pattern
  | [] => some (.mapping [] [] none)
  | [.inr rest] => some (.mapping [] [] (some rest))
  | .inr _ :: _ => none
  | .inl (key, p) :: items =>
    match arrangeMapping items with
    | some (.mapping keys ps rest) => some (.mapping (key :: keys) (p :: ps) rest)
    | _ => none

/-- What follows an opening brace. -/
def afterPatternBrace : Parser Pattern := do
  if ← accept (.op .rBrace) then
    return .mapping [] [] none
  else
    let (items, _) ← commaListTrailing g.mappingItem
    op .rBrace
    fromOption (arrangeMapping items)

/-- An argument of a class pattern. -/
def classItem : Parser (Option String × Pattern) := do
  match ← peek, ← peekSecond with
  | some (.name _), some (.op .equal) =>
    let id ← name
    advance
    return (some id, ← g.pattern)
  | _, _ => return (none, ← g.pattern)

/-- The arguments of a class pattern; the positional ones come first.  Directly behind them, the
wildcard is not read as a keyword. -/
def arrangeClass (function : Expr) : List (Option String × Pattern) → Option Pattern
  | [] => some (.class function [] [] [])
  | (none, p) :: items =>
    match arrangeClass function items with
    | some (.class f ps names named) =>
      if ps.isEmpty && names.head? == some "_" then none
      else some (.class f (p :: ps) names named)
    | _ => none
  | (some id, p) :: items =>
    match arrangeClass function items with
    | some (.class f [] names named) => some (.class f [] (id :: names) (p :: named))
    | _ => none

/-- The rest of a class pattern after its opening parenthesis. -/
def classRest (function : Expr) : Parser Pattern := do
  if ← accept (.op .rPar) then
    return .class function [] [] []
  else
    let (items, _) ← commaListTrailing g.classItem
    op .rPar
    fromOption (arrangeClass function items)

/-- A pattern that starts with a name: a class, a value or a capture. -/
def namePattern : Parser Pattern := do
  let e ← dottedName
  if ← accept (.op .lPar) then g.classRest e
  else
    ensure (!(← sees (.op .equal)))
    match e with
    | .name id => return .capture none (some id)
    | _ => return .value e

/-- A pattern without a bar and without `as` at its top. -/
def closedPattern : Parser Pattern := do
  match ← peek with
  | some (.number _) => return .value (← g.numberPattern)
  | some (.op .minus) => return .value (← g.numberPattern)
  | some (.string _) => return .value (← g.strings)
  | some (.word .none) =>
    advance
    return .singleton .none
  | some (.word .true) =>
    advance
    return .singleton .true
  | some (.word .false) =>
    advance
    return .singleton .false
  | some (.name spelling) =>
    if spelling == wildcard then
      advance
      return .capture none none
    else g.namePattern
  | some (.op .lPar) =>
    advance
    g.afterPatternParenthesis
  | some (.op .lSqb) =>
    advance
    g.afterPatternBracket
  | some (.op .lBrace) =>
    advance
    g.afterPatternBrace
  | _ => mismatch

/-- A pattern. -/
def patternRule : Parser Pattern :=
  asPattern g.closedPattern

/-- The pattern of a case: a comma makes it a sequence without brackets. -/
def casePattern : Parser Pattern := do
  let isStarred ← sees (.op .star)
  let first ← g.elementPattern
  if ← accept (.op .comma) then
    let more ← maybe (commaListTrailing g.elementPattern)
    return .sequence (first :: (more.map Prod.fst).getD [])
  else if isStarred then mismatch
  else return first

end AnnotatedMarkdown.Python.Grammar
