import AnnotatedMarkdown.Python.Recognition.Rule

/-!
# Recognition of statements

The definitions of the rules of statements, and of the faults among them.
-/

namespace AnnotatedMarkdown.Python.Recognition

/-! ## Short forms -/

/-- A value on the right of an assignment. -/
def assignedValue : Item := oneOf [expr .yieldExpression, expr .starExpressions]

/-- Targets with an equals sign after them. -/
def targetsAndSign : Item := .group [[expr .starTargets, op .equal]]

/-- The end of a line without an indented block below it. -/
def missingBlock : List Item := [op .colon, lexeme .newline, notFollowedBy (lexeme .indent)]

/-- A name that `as` introduces, or none. -/
def maybeAlias : Item := maybe [word .as, name]

/-- The word `async`, or none. -/
def maybeAsync : Item := .optional (word .async)

/-- The arguments of a class definition, or none. -/
def maybeArguments : Item := maybe [op .lPar, .optional (expr .arguments), op .rPar]

/-- The result type of a function, or none. -/
def maybeResult : Item := maybe [op .arrow, expr .expression]

/-- The parameters of a function, or none. -/
def maybeParameters : Item := .optional (.rule (.parameter false .signature))

/-- The dots in front of a relative module name. -/
def dots : Item := oneOf [op .dot, op .ellipsis]

/-- The context managers of a statement. -/
def managers : Item := commas (.group [[expr .expression, maybe [word .as, expr .starTarget]]])

/-- The context managers of a statement in parentheses. -/
def enclosedManagers : List Item :=
  [op .lPar, commas (.group [[expr .expressions, maybe [word .as, expr .starTarget]]]),
    maybeComma, op .rPar]

/-- A statement with a test in front of its block. -/
def testedBlock (w : Word) (more : Item) : Alternative :=
  items [word w, expr .namedExpression, op .colon, stmt .block, more]

/-- Faults of a statement with a test in front of its block. -/
def faultyTest (w : Word) : Definition := direct [
  alt [word w, expr .namedExpression, lexeme .newline] faultAtEnd,
  alt ([word w, expr .namedExpression] ++ missingBlock) faultAtEnd]

/-- A function definition without decorators, after the word `async` or none. -/
def functionItems (front : List Item) : List Item :=
  front ++ [word .define, name, .forced (.op .lPar), maybeParameters, op .rPar, maybeResult,
    .forced (.op .colon), .optional (stmt .functionTypeComment), stmt .block]

/-- A loop over something, after the word `async` or none. -/
def loopItems (front : List Item) : List Item :=
  front ++ [word .for, expr .starTargets, word .in, .cut, expr .starExpressions, op .colon,
    .optional typeComment, stmt .block, .optional (stmt .elseBlock)]

/-- The front of a `with` statement whose context managers are in parentheses. -/
def enclosedWith (front : List Item) : List Item :=
  front ++ [word .with, op .lPar, commas (stmt .withItem), maybeComma, op .rPar, op .colon,
    stmt .block]

/-- The front of a `with` statement. -/
def openWith (front : List Item) : List Item :=
  front ++ [word .with, commas (stmt .withItem), op .colon, .optional typeComment, stmt .block]

/-- The block of a `try` statement with clauses after it. -/
def tried (clauses : List Item) : List Item :=
  [word .try, .forced (.op .colon), stmt .block] ++ clauses

/-! ## The rules -/

/-- The definitions of the rules of statements. -/
def statementDefinition : StatementRule → Definition
  | .file => direct [items [.optional (stmt .statements), lexeme .endMarker]]
  | .embedded => direct [same (.expression .starExpressions)]
  | .statements => direct [items [.many1 (stmt .statement)]]
  | .statement => direct [
      same (.statement .compoundStatement),
      same (.statement .simpleStatements)]
  | .simpleStatements => direct [
      items [stmt .simpleStatement, notFollowedBy (op .semi), lexeme .newline],
      items [.separated (.op .semi) (stmt .simpleStatement), .optional (op .semi),
        lexeme .newline]]
  | .simpleStatement => remembered [
      same (.statement .assignment),
      same (.expression .starExpressions),
      items [followedBy (word .return), stmt .returnStatement],
      items [followedBy (oneOf [word .import, word .from]), stmt .importStatement],
      items [followedBy (word .raise), stmt .raiseStatement],
      items [word .pass],
      items [followedBy (word .del), stmt .deleteStatement],
      items [followedBy (word .yield), expr .yieldExpression],
      items [followedBy (word .assert), stmt .assertStatement],
      items [word .break],
      items [word .continue],
      items [followedBy (word .global), stmt .globalStatement],
      items [followedBy (word .nonlocal), stmt .nonlocalStatement]]
  | .compoundStatement => direct [
      items [followedBy (oneOf [word .define, op .at, word .async]), stmt .functionDefinition],
      items [followedBy (word .if), stmt .ifStatement],
      items [followedBy (oneOf [word .klass, op .at]), stmt .classDefinition],
      items [followedBy (oneOf [word .with, word .async]), stmt .withStatement],
      items [followedBy (oneOf [word .for, word .async]), stmt .forStatement],
      items [followedBy (word .try), stmt .tryStatement],
      items [followedBy (word .while), stmt .whileStatement],
      same (.statement .matchStatement)]
  | .assignment => direct [
      alt [name, op .colon, expr .expression, maybe [op .equal, stmt .annotatedValue]] (since 6),
      alt [.group [[op .lPar, expr .singleTarget, op .rPar], [expr .singlePlace]], op .colon,
        expr .expression, maybe [op .equal, stmt .annotatedValue]] (since 6),
      items [.many1 targetsAndSign, assignedValue, notFollowedBy (op .equal),
        .optional typeComment],
      items [expr .singleTarget, stmt .augmentedOperator, .cut, assignedValue],
      diagnosis (.statement .faultyAssignment)]
  | .annotatedValue => direct [items [assignedValue]]
  | .augmentedOperator => direct [
      items [op .plusEqual], items [op .minusEqual], items [op .starEqual],
      alt [op .atEqual] (since 5),
      items [op .slashEqual], items [op .percentEqual], items [op .amperEqual],
      items [op .vBarEqual], items [op .circumflexEqual], items [op .leftShiftEqual],
      items [op .rightShiftEqual], items [op .doubleStarEqual], items [op .doubleSlashEqual]]
  | .returnStatement => direct [items [word .return, .optional (expr .starExpressions)]]
  | .raiseStatement => direct [
      items [word .raise, expr .expression, maybe [word .from, expr .expression]],
      items [word .raise]]
  | .globalStatement => direct [items [word .global, commas name]]
  | .nonlocalStatement => direct [items [word .nonlocal, commas name]]
  | .deleteStatement => direct [
      items [word .del, expr .deletedTargets, followedBy (oneOf [op .semi, lexeme .newline])],
      diagnosis (.statement .faultyDelete)]
  | .assertStatement => direct [
      items [word .assert, expr .expression, maybe [op .comma, expr .expression]]]
  | .importStatement => direct [same (.statement .importName), same (.statement .importFrom)]
  | .importName => direct [items [word .import, stmt .dottedAsNames]]
  | .importFrom => direct [
      items [word .from, .many dots, stmt .dottedName, word .import, stmt .importTargets],
      items [word .from, .many1 dots, word .import, stmt .importTargets]]
  | .importTargets => direct [
      items [op .lPar, stmt .importedNames, maybeComma, op .rPar],
      items [stmt .importedNames, notFollowedBy (op .comma)],
      items [op .star],
      diagnosis (.statement .faultyImportTargets)]
  | .importedNames => direct [items [commas (stmt .importedName)]]
  | .importedName => direct [items [name, maybeAlias]]
  | .dottedAsNames => direct [items [commas (stmt .dottedAsName)]]
  | .dottedAsName => direct [items [stmt .dottedName, maybeAlias]]
  | .dottedName => leftRecursive [items [stmt .dottedName, op .dot, name], items [name]]
  | .block => remembered [
      items [lexeme .newline, lexeme .indent, stmt .statements, lexeme .dedent],
      same (.statement .simpleStatements),
      diagnosis (.statement .faultyBlock)]
  | .decorators => direct [
      items [.many1 (.group [[op .at, expr .namedExpression, lexeme .newline]])]]
  | .classDefinition => direct [
      items [stmt .decorators, stmt .bareClass],
      same (.statement .bareClass)]
  | .bareClass => direct [
      diagnosis (.statement .faultyClass),
      items [word .klass, name, maybeArguments, op .colon, stmt .block]]
  | .functionDefinition => direct [
      items [stmt .decorators, stmt .bareFunction],
      same (.statement .bareFunction)]
  | .bareFunction => direct [
      diagnosis (.statement .faultyFunction),
      items (functionItems []),
      alt (functionItems [word .async]) (since 5)]
  | .functionTypeComment => direct [
      items [lexeme .newline, typeComment, followedBy (.group [[lexeme .newline, lexeme .indent]])],
      items [typeComment]]
  | .ifStatement => direct [
      diagnosis (.statement .faultyIf),
      testedBlock .if (stmt .elifStatement),
      testedBlock .if (.optional (stmt .elseBlock))]
  | .elifStatement => direct [
      diagnosis (.statement .faultyElif),
      testedBlock .elif (stmt .elifStatement),
      testedBlock .elif (.optional (stmt .elseBlock))]
  | .elseBlock => direct [
      diagnosis (.statement .faultyElse),
      items [word .else, .forced (.op .colon), stmt .block]]
  | .whileStatement => direct [
      diagnosis (.statement .faultyWhile),
      testedBlock .while (.optional (stmt .elseBlock))]
  | .forStatement => direct [
      diagnosis (.statement .faultyFor),
      items (loopItems []),
      alt (loopItems [word .async]) (since 5),
      diagnosis (.expression .faultyLoopTarget)]
  | .withStatement => direct [
      diagnosis (.statement .faultyWithIndent),
      alt (enclosedWith []) (since 9),
      items (openWith []),
      alt (enclosedWith [word .async]) (since 5),
      alt (openWith [word .async]) (since 5),
      diagnosis (.statement .faultyWith)]
  | .withItem => direct [
      items [expr .expression, word .as, expr .starTarget,
        followedBy (oneOf [op .comma, op .rPar, op .colon])],
      diagnosis (.statement .faultyWithItem),
      items [expr .expression]]
  | .tryStatement => direct [
      diagnosis (.statement .faultyTry),
      items (tried [stmt .finallyBlock]),
      items (tried [.many1 (stmt .exceptBlock), .optional (stmt .elseBlock),
        .optional (stmt .finallyBlock)]),
      alt (tried [.many1 (stmt .exceptStarBlock), .optional (stmt .elseBlock),
        .optional (stmt .finallyBlock)]) (since 11)]
  | .exceptBlock => direct [
      diagnosis (.statement .faultyExceptIndent),
      items [word .except, expr .expression, maybeAlias, op .colon, stmt .block],
      items [word .except, op .colon, stmt .block],
      diagnosis (.statement .faultyExcept)]
  | .exceptStarBlock => direct [
      diagnosis (.statement .faultyExceptStarIndent),
      items [word .except, op .star, expr .expression, maybeAlias, op .colon, stmt .block],
      diagnosis (.statement .faultyExcept)]
  | .finallyBlock => direct [
      diagnosis (.statement .faultyFinally),
      items [word .finally, .forced (.op .colon), stmt .block]]
  | .matchStatement => direct [
      alt [matchWord, stmt .subject, op .colon, lexeme .newline, lexeme .indent,
        .many1 (stmt .caseBlock), lexeme .dedent] (since 10),
      diagnosis (.statement .faultyMatch)]
  | .subject => direct [
      items [expr .starNamedExpression, op .comma, .optional (expr .starNamedExpressions)],
      same (.expression .namedExpression)]
  | .caseBlock => direct [
      diagnosis (.statement .faultyCase),
      items [caseWord, pat .patterns, .optional (stmt .guard), op .colon, stmt .block]]
  | .guard => direct [items [word .if, expr .namedExpression]]
  | .faultyAssignment => direct [
      alt [stmt .faultyAnnotationTarget, op .colon, expr .expression] (faultAt 0),
      alt [expr .starNamedExpression, op .comma, .many (expr .starNamedExpressions), op .colon,
        expr .expression] (faultAt 0),
      alt [expr .expression, op .colon, expr .expression] (faultAt 0),
      alt [.many targetsAndSign, expr .starExpressions, op .equal] (faultyTarget .assignment 1),
      alt [.many targetsAndSign, expr .yieldExpression, op .equal] (faultAt 1),
      alt [expr .starExpressions, stmt .augmentedOperator, assignedValue] (faultAt 0)]
  | .faultyAnnotationTarget => direct [
      same (.expression .list),
      same (.expression .tuple),
      alt [op .lPar, stmt .faultyAnnotationTarget, op .rPar] (pick 1)]
  | .faultyDelete => direct [
      alt [word .del, expr .starExpressions] (faultyTarget .deletion 1)]
  | .faultyBlock => direct [
      alt [lexeme .newline, notFollowedBy (lexeme .indent)] faultAtEnd]
  | .faultyClass => direct [
      alt [word .klass, name, maybeArguments, lexeme .newline] faultAtEnd,
      alt ([word .klass, name, maybeArguments] ++ missingBlock) faultAtEnd]
  | .faultyFunction => direct [
      alt ([maybeAsync, word .define, name, op .lPar, maybeParameters, op .rPar, maybeResult]
        ++ missingBlock) faultAtEnd]
  | .faultyIf => faultyTest .if
  | .faultyElif => faultyTest .elif
  | .faultyElse => direct [alt (word .else :: missingBlock) faultAtEnd]
  | .faultyWhile => faultyTest .while
  | .faultyFor => direct [
      alt [maybeAsync, word .for, expr .starTargets, word .in, expr .starExpressions,
        lexeme .newline] faultAtEnd,
      alt ([maybeAsync, word .for, expr .starTargets, word .in, expr .starExpressions]
        ++ missingBlock) faultAtEnd]
  | .faultyWith => direct [
      alt [maybeAsync, word .with, managers, lexeme .newline] faultAtEnd,
      alt ([maybeAsync, word .with] ++ enclosedManagers ++ [lexeme .newline]) faultAtEnd]
  | .faultyWithIndent => direct [
      alt ([maybeAsync, word .with, managers] ++ missingBlock) faultAtEnd,
      alt ([maybeAsync, word .with] ++ enclosedManagers ++ missingBlock) faultAtEnd]
  | .faultyWithItem => direct [
      alt [expr .expression, word .as, expr .expression,
        followedBy (oneOf [op .comma, op .rPar, op .colon])] (faultyTarget .assignment 2)]
  | .faultyTry => direct [
      alt (word .try :: missingBlock) faultAtEnd,
      alt [word .try, op .colon, stmt .block,
        notFollowedBy (oneOf [word .except, word .finally])] faultAtEnd,
      alt [word .try, op .colon, .many (stmt .block),
        .group [[.many1 (stmt .exceptBlock), stmt .exceptStarBlock],
          [.many1 (stmt .exceptStarBlock), stmt .exceptBlock]],
        .many (stmt .block)] faultAtEnd]
  | .faultyExcept => direct [
      alt [word .except, .optional (op .star), expr .expression, op .comma, expr .expressions,
        maybeAlias, op .colon] (faultAt 2),
      alt [word .except, .optional (op .star), expr .expression, maybeAlias, lexeme .newline]
        faultAtEnd,
      alt [word .except, lexeme .newline] faultAtEnd,
      alt [word .except, op .star, oneOf [lexeme .newline, op .colon]] faultAtEnd]
  | .faultyExceptIndent => direct [
      alt ([word .except, expr .expression, maybeAlias] ++ missingBlock) faultAtEnd,
      alt (word .except :: missingBlock) faultAtEnd]
  | .faultyExceptStarIndent => direct [
      alt ([word .except, op .star, expr .expression, maybeAlias] ++ missingBlock) faultAtEnd]
  | .faultyFinally => direct [alt (word .finally :: missingBlock) faultAtEnd]
  | .faultyMatch => direct [
      alt [matchWord, stmt .subject, lexeme .newline] faultAtEnd,
      alt ([matchWord, stmt .subject] ++ missingBlock) faultAtEnd]
  | .faultyCase => direct [
      alt [caseWord, pat .patterns, .optional (stmt .guard), lexeme .newline] faultAtEnd,
      alt ([caseWord, pat .patterns, .optional (stmt .guard)] ++ missingBlock) faultAtEnd]
  | .faultyImportTargets => direct [
      alt [stmt .importedNames, op .comma, lexeme .newline] faultAtEnd]

end AnnotatedMarkdown.Python.Recognition
