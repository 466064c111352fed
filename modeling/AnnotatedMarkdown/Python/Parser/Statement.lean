import AnnotatedMarkdown.Python.Parser.Pattern

/-!
# Parsers of statements

Simple statements stand on one line, compound statements hold blocks.  The blocks
within a statement are read by the field `block` of the grammar.
-/

namespace AnnotatedMarkdown.Python.Grammar

open AnnotatedMarkdown.Python.Parser

variable (g : Grammar)

/-! ## Simple statements -/

/-- The operator of an augmented assignment. -/
def augmentedOp? : Lexeme → Option BinaryOp
  | .op .plusEqual => some .add
  | .op .minusEqual => some .sub
  | .op .starEqual => some .mult
  | .op .atEqual => some .matMult
  | .op .slashEqual => some .div
  | .op .percentEqual => some .mod
  | .op .amperEqual => some .bitAnd
  | .op .vBarEqual => some .bitOr
  | .op .circumflexEqual => some .bitXor
  | .op .leftShiftEqual => some .lShift
  | .op .rightShiftEqual => some .rShift
  | .op .doubleStarEqual => some .pow
  | .op .doubleSlashEqual => some .floorDiv
  | _ => none

/-- Whether an expression can be the target of an assignment statement. -/
def isAssignable : Expr → Bool
  | .starred e => e.isTarget
  | e => e.isTarget

/-- The rest of an annotated assignment after its colon. -/
def annotatedRest (target : Expr) (isSimple : Bool) : Parser Stmt := do
  let hint ← g.expression
  let value ← after? (.op .equal) g.rightHandSide
  g.since 6
  return .annAssign target hint value isSimple

/-- The targets and the value of an assignment: all right sides but the last one must
be targets themselves. -/
def arrangeAssignment (first : Expr) : List Expr → Option Stmt
  | [] => none
  | [value] => if isAssignable first then some (.assign [first] value) else none
  | e :: es =>
    match arrangeAssignment e es with
    | some (.assign targets value) =>
      if isAssignable first then some (.assign (first :: targets) value) else none
    | _ => none

/-- An assignment, or an expression as a statement. -/
def expressionStatement : Parser Stmt := do
  match ← peek, ← peekSecond with
  | some (.name _), some (.op .colon) =>
    let target ← name
    advance
    g.annotatedRest (.name target) true
  | some (.word .yield), _ => return .expr (← g.yieldExpression)
  | _, _ =>
    let e ← g.starExpressions
    match ← peek with
    | some (.op .colon) =>
      ensure e.isSingleTarget
      advance
      g.annotatedRest e false
    | some (.op .equal) =>
      let values ← many1 (do op .equal; g.rightHandSide)
      fromOption (arrangeAssignment e values)
    | some x =>
      match augmentedOp? x with
      | some o =>
        ensure e.isSingleTarget
        advance
        let value ← g.rightHandSide
        if o = .matMult then g.since 5
        return .augAssign e o value
      | none => return .expr e
    | none => return .expr e

/-- The name after the word `as`. -/
def asName : Parser (Option String) :=
  after? (.word .as) name

/-- A dotted module name. -/
def moduleName : Parser String := do
  let first ← name
  let more ← many (do op .dot; name)
  return String.intercalate "." (first :: more)

/-- A module name of an import statement. -/
def importedModule : Parser Alias := do
  let name ← moduleName
  return ⟨name, ← asName⟩

/-- A name imported from a module. -/
def importedName : Parser Alias := do
  let name ← name
  return ⟨name, ← asName⟩

/-- The number of leading dots of a relative import that one token stands for. -/
def leadingDots : Parser Nat := do
  match ← peek with
  | some (.op .dot) =>
    advance
    return 1
  | some (.op .ellipsis) =>
    advance
    return 3
  | _ => mismatch

/-- What a module is asked for. -/
def importedNames : Parser (List Alias) := do
  if ← accept (.op .star) then
    return [⟨"*", none⟩]
  else if ← accept (.op .lPar) then
    let (names, _) ← commaListTrailing importedName
    op .rPar
    return names
  else commaList importedName

/-- An import from a module. -/
def importFrom : Parser Stmt := do
  word .from
  let level := (← many leadingDots).foldl (· + ·) 0
  let module ← if ← sees (.word .import) then pure none else (do return some (← moduleName))
  ensure (module.isSome || 0 < level)
  word .import
  return .importFrom module (← importedNames) level

/-- A raise statement. -/
def raise : Parser Stmt := do
  word .raise
  match ← maybe g.expression with
  | none => return .raise none none
  | some e => return .raise (some e) (← after? (.word .from) g.expression)

/-- A deletion. -/
def delete : Parser Stmt := do
  word .del
  let (targets, _) ← commaListTrailing g.primary
  ensure (areDeletable targets)
  return .delete targets

/-- A simple statement. -/
def simpleStatement : Parser Stmt := do
  match ← peek with
  | some (.word .return) =>
    advance
    return .return (← maybe g.starExpressions)
  | some (.word .import) =>
    advance
    return .import (← commaList importedModule)
  | some (.word .from) => importFrom
  | some (.word .raise) => g.raise
  | some (.word .pass) =>
    advance
    return .pass
  | some (.word .del) => g.delete
  | some (.word .assert) =>
    advance
    let test ← g.expression
    return .assert test (← after? (.op .comma) g.expression)
  | some (.word .break) =>
    advance
    return .break
  | some (.word .continue) =>
    advance
    return .continue
  | some (.word .global) =>
    advance
    return .global (← commaList name)
  | some (.word .nonlocal) =>
    advance
    return .nonlocal (← commaList name)
  | _ => g.expressionStatement

/-- Simple statements on one line. -/
def simpleStatements : Parser (List Stmt) := do
  let first ← g.simpleStatement
  let more ← many (do op .semi; g.simpleStatement)
  let _ ← accept (.op .semi)
  expect .newline
  return first :: more

/-! ## Compound statements -/

/-- A block after a colon. -/
def suite : Parser (List Stmt) := do
  op .colon
  g.block

/-- A block after a word and a colon, if the word comes next. -/
def suiteAfter (w : Word) : Parser (List Stmt) := do
  return (← after? (.word w) g.suite).getD []

/-- A function definition after its decorators. -/
def functionDef (isAsync : Bool) (decorators : List Expr) : Parser Stmt := do
  word .define
  let id ← name
  op .lPar
  let parameters ← if ← sees (.op .rPar) then pure [] else g.parameters true
  op .rPar
  let result ← after? (.op .arrow) g.expression
  let body ← g.suite
  if isAsync then g.since 5
  return .functionDef isAsync id parameters body decorators result

/-- A class definition after its decorators. -/
def classDef (decorators : List Expr) : Parser Stmt := do
  word .klass
  let id ← name
  let (bases, keywords) ← if ← accept (.op .lPar) then g.arguments else pure ([], [])
  let body ← g.suite
  return .classDef id bases keywords body decorators

/-- A decorated definition. -/
def decorated : Parser Stmt := do
  let decorators ← many1 do
    op .at
    let e ← g.namedExpression
    expect .newline
    return e
  match ← peek with
  | some (.word .klass) => g.classDef decorators
  | some (.word .async) =>
    advance
    g.functionDef true decorators
  | _ => g.functionDef false decorators

/-- The tests and blocks of a conditional statement after its first word: each `elif`
is a statement within the `else` block of the one before. -/
def conditional : Parser Stmt := do
  let test ← g.namedExpression
  let body ← g.suite
  let others ← many do
    word .elif
    let test ← g.namedExpression
    return (test, ← g.suite)
  let orElse ← g.suiteAfter .else
  return .if test body (others.foldr (fun (t, b) rest => [.if t b rest]) orElse)

/-- A loop over the elements of something. -/
def forLoop (isAsync : Bool) : Parser Stmt := do
  word .for
  let target ← g.starTargets
  word .in
  let source ← g.starExpressions
  let body ← g.suite
  let orElse ← g.suiteAfter .else
  if isAsync then g.since 5
  return .for isAsync target source body orElse

/-- A context manager with its target. -/
def withItem : Parser WithItem := do
  let manager ← g.expression
  return ⟨manager, ← after? (.word .as) g.starTarget⟩

/-- The context managers of a `with` statement in parentheses, up to the colon. -/
def withItemsInParentheses : Parser (List WithItem) := do
  op .lPar
  let (items, _) ← commaListTrailing g.withItem
  op .rPar
  op .colon
  g.since 9
  return items

/-- A `with` statement. -/
def withStatement (isAsync : Bool) : Parser Stmt := do
  word .with
  let items ← orElse g.withItemsInParentheses fun _ => do
    let items ← commaList g.withItem
    op .colon
    return items
  let body ← g.block
  if isAsync then g.since 5
  return .with isAsync items body

/-- An `except` clause, with a star if it belongs to a group. -/
def handler (isGroup : Bool) : Parser Handler := do
  word .except
  if isGroup then op .star
  let type ← if isGroup then (do return some (← g.expression)) else maybe g.expression
  let id ← if type.isSome then after? (.word .as) name else pure none
  return .mk type id (← g.suite)

/-- A `try` statement. -/
def tryStatement : Parser Stmt := do
  word .try
  let body ← g.suite
  if ← sees (.word .finally) then
    return .try false body [] [] (← g.suiteAfter .finally)
  else
    let isGroup := (← peekSecond) == some (.op .star)
    let handlers ← many1 (g.handler isGroup)
    let orElse ← g.suiteAfter .else
    let final ← g.suiteAfter .finally
    if isGroup then g.since 11
    return .try isGroup body handlers orElse final

/-- The subject of a `match` statement. -/
def subject : Parser Expr := do
  let (elements, trailing) ← commaListTrailing g.starNamedExpression
  match elements, trailing with
  | [.starred _], false => mismatch
  | _, _ => return tupleOf elements trailing

/-- A name that is a reserved word in its place only. -/
def softWord (spelling : List Char) : Parser Unit :=
  expect (.name spelling)

/-- The head of a `match` statement. -/
def matchHead : Parser Expr := do
  softWord ['m', 'a', 't', 'c', 'h']
  let e ← g.subject
  op .colon
  expect .newline
  return e

/-- A case of a `match` statement. -/
def matchCase : Parser MatchCase := do
  softWord ['c', 'a', 's', 'e']
  let p ← g.casePattern
  let guard ← after? (.word .if) g.namedExpression
  return .mk p guard (← g.suite)

/-- The cases of a `match` statement. -/
def matchCases (subject : Expr) : Parser Stmt := do
  expect .indent
  let cases ← many1 g.matchCase
  expect .dedent
  g.since 10
  return .match subject cases

/-- A statement that `async` introduces. -/
def asyncStatement : Parser Stmt := do
  word .async
  match ← peek with
  | some (.word .define) => g.functionDef true []
  | some (.word .with) => g.withStatement true
  | some (.word .for) => g.forLoop true
  | _ => mismatch

/-- A compound statement, or the simple statements of a line. -/
def statement : Parser (List Stmt) := do
  match ← peek with
  | some (.word .define) => return [← g.functionDef false []]
  | some (.op .at) => return [← g.decorated]
  | some (.word .async) => return [← g.asyncStatement]
  | some (.word .if) =>
    advance
    return [← g.conditional]
  | some (.word .klass) => return [← g.classDef []]
  | some (.word .with) => return [← g.withStatement false]
  | some (.word .for) => return [← g.forLoop false]
  | some (.word .try) => return [← g.tryStatement]
  | some (.word .while) =>
    advance
    let test ← g.namedExpression
    let body ← g.suite
    return [.while test body (← g.suiteAfter .else)]
  | _ =>
    match ← maybe g.matchHead with
    | some subject => return [← g.matchCases subject]
    | none => g.simpleStatements

/-- The statements of a block: on the same line, or indented on the lines below. -/
def blockRule : Parser (List Stmt) := do
  if ← accept .newline then
    expect .indent
    let statements ← many1 g.statement
    expect .dedent
    return statements.flatten
  else g.simpleStatements

/-- A module. -/
def module : Parser Module := do
  let statements ← many g.statement
  expect .endMarker
  return statements.flatten

/-- A single expression list. -/
def soleExpression : Parser Expr := do
  let e ← g.expressions
  let _ ← many (expect .newline)
  expect .endMarker
  return e

/-! ## Levels -/

/-- The tokens of a text that are not cut short by a fault. -/
def tokensOf (asyncReserved : Bool) (source : List Char) : List Token :=
  (lex 1 asyncReserved source).tokens

/-- The expression list in the text of a replacement field. -/
def embeddedExpression (cs : List Char) : Option Expr :=
  match g.starExpressions (tokensOf g.asyncReserved (moduleSource ('(' :: cs ++ [')']))) with
  | .ok (e, _) => some e
  | .error _ => none

/-- The grammar whose constituents nest up to a number of levels; it finds none that nest
deeper.  A level is made when one of its parsers is applied. -/
def nested (version : Nat) (asyncReserved : Bool) (embedded : List Char → Option Expr) : Nat → Grammar
  | 0 =>
    { version, asyncReserved, embedded, expression := mismatch, disjunction := mismatch,
      inversion := mismatch, bitwiseOr := mismatch, factor := mismatch, primary := mismatch,
      pattern := mismatch, block := mismatch }
  | n + 1 =>
    { version, asyncReserved, embedded
      expression := fun tokens => (nested version asyncReserved embedded n).expressionRule tokens
      disjunction := fun tokens => (nested version asyncReserved embedded n).disjunctionRule tokens
      inversion := fun tokens => (nested version asyncReserved embedded n).inversionRule tokens
      bitwiseOr := fun tokens => (nested version asyncReserved embedded n).bitwiseOrRule tokens
      factor := fun tokens => (nested version asyncReserved embedded n).factorRule tokens
      primary := fun tokens => (nested version asyncReserved embedded n).primaryRule tokens
      pattern := fun tokens => (nested version asyncReserved embedded n).patternRule tokens
      block := fun tokens => (nested version asyncReserved embedded n).blockRule tokens }

/-- The expression list in the text of a replacement field, with format strings in one another up
to a depth. -/
def embeddedUpTo (version : Nat) (asyncReserved : Bool) : (depth : Nat) → List Char → Option Expr
  | 0, _ => none
  | depth + 1, cs =>
    (nested version asyncReserved (embeddedUpTo version asyncReserved depth)
      (cs.length + 4)).embeddedExpression cs

/-- The grammar of a version.  The texts of its replacement fields have as many levels and as
much depth as they have characters. -/
def level (version : Nat) (asyncReserved : Bool) (levels : Nat) : Grammar :=
  nested version asyncReserved (fun cs => embeddedUpTo version asyncReserved (cs.length + 1) cs) levels

end AnnotatedMarkdown.Python.Grammar
