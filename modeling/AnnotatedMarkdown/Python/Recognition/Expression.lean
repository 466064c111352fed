import AnnotatedMarkdown.Python.Recognition.Literal
import AnnotatedMarkdown.Python.Recognition.Rule

/-!
# Recognition of expressions

The definitions of the rules of expressions, of targets, and of the faults among
them.
-/

namespace AnnotatedMarkdown.Python.Recognition

/-! ## Actions -/

/-- The tuple of the first item and of those that are repeated after it. -/
def firstAndMore : Action := make fun m => .sequence m.line (m.value 0 :: (m.value 1).elements)

/-- The tuple of the first item alone. -/
def firstAlone : Action := make fun m => .sequence m.line [m.value 0]

/-- A comparison; its first operator counts. -/
def comparisonOf : Action := make fun m =>
  match (m.value 1).elements with
  | .membership _ _ :: _ => .membership m.line (m.value 0)
  | _ => .comparison m.line

/-- The arguments by position: starred ones may stand among those by keyword. -/
def argumentsOf (positional : Node) (named : Node) (line : Nat) : Node :=
  .sequence line (positional.elements ++ named.elements.filter Node.isStarred)

/-- Whether a constituent is the name of a former statement. -/
def isFormerStatement : Node → Bool
  | .name _ spelling => spelling == ['p', 'r', 'i', 'n', 't'] || spelling == ['e', 'x', 'e', 'c']
  | _ => false

/-- A generator without parentheses after other arguments is a fault; alone it is
none. -/
def strayGenerator : Action := fun m =>
  match (m.value 0).elements with
  | first :: more => if more.isEmpty then .refused else .fault (.line (more.getLastD first).line)
  | [] => .refused

/-- A former statement without parentheses is a fault. -/
def formerStatement : Action := fun m =>
  if isFormerStatement (m.value 0) then faultAt 0 m else .refused

/-- Two expressions in a row within brackets are a fault. -/
def missingComma : Action := fun m =>
  if isFormerStatement (m.value 1) || m.depth = 0 then .refused else faultAt 1 m

/-! ## Short forms -/

/-- An expression or an assignment expression, which stands for itself. -/
def argumentValue : Item :=
  .group [[expr .assignmentExpression],
    [expr .expression, notFollowedBy (op .colonEqual)]]

/-- An operation on two operands that associates to the left. -/
def operation (left : ExpressionRule) (o : Op) (right : ExpressionRule) : Alternative :=
  items [expr left, op o, expr right]

/-- A comparison operator of one lexeme with its right operand. -/
def comparedBy (x : Item) : Alternative :=
  items [x, expr .bitwiseOr]

/-- The constants that are reserved words. -/
def constantWord : Item := oneOf [word .true, word .false, word .none]

/-- An equals sign or that of an assignment expression. -/
def assignmentSign : Item := oneOf [op .equal, op .colonEqual]

/-! ## The rules -/

/-- The definitions of the rules of expressions. -/
def expressionDefinition : ExpressionRule → Definition
  | .expressions => direct [
      alt [expr .expression, .many1 (.group [[op .comma, expr .expression]]), maybeComma]
        firstAndMore,
      alt [expr .expression, op .comma] firstAlone,
      same (.expression .expression)]
  | .expression => remembered [
      diagnosis (.expression .faultyExpression),
      diagnosis (.expression .faultyCall),
      items [expr .disjunction, word .if, expr .disjunction, word .else, expr .expression],
      same (.expression .disjunction),
      same (.expression .lambda)]
  | .undiagnosedExpression => ⟨.undiagnosed, [
      items [expr .disjunction, word .if, expr .disjunction, word .else, expr .expression],
      same (.expression .disjunction),
      same (.expression .lambda)]⟩
  | .yieldExpression => direct [
      items [word .yield, word .from, expr .expression],
      items [word .yield, .optional (expr .starExpressions)]]
  | .starExpressions => direct [
      alt [expr .starExpression, .many1 (.group [[op .comma, expr .starExpression]]), maybeComma]
        firstAndMore,
      alt [expr .starExpression, op .comma] firstAlone,
      same (.expression .starExpression)]
  | .starExpression => remembered [
      alt [op .star, expr .bitwiseOr] (make fun m => .starred m.line (m.value 1)),
      same (.expression .expression)]
  | .starNamedExpressions => direct [
      alt [commas (expr .starNamedExpression), maybeComma] (pick 0)]
  | .starNamedExpression => direct [
      alt [op .star, expr .bitwiseOr] (make fun m => .starred m.line (m.value 1)),
      same (.expression .namedExpression)]
  | .assignmentExpression => direct [
      alt [name, op .colonEqual, .cut, expr .expression] (since 8)]
  | .namedExpression => direct [
      same (.expression .assignmentExpression),
      diagnosis (.expression .faultyNamedExpression),
      alt [expr .expression, notFollowedBy (op .colonEqual)] (pick 0)]
  | .disjunction => remembered [
      items [expr .conjunction, .many1 (.group [[word .or, expr .conjunction]])],
      same (.expression .conjunction)]
  | .conjunction => remembered [
      items [expr .inversion, .many1 (.group [[word .and, expr .inversion]])],
      same (.expression .inversion)]
  | .inversion => remembered [
      items [word .not, expr .inversion],
      same (.expression .comparison)]
  | .comparison => direct [
      alt [expr .bitwiseOr, .many1 (expr .comparisonPair)] comparisonOf,
      same (.expression .bitwiseOr)]
  | .comparisonPair => direct [
      comparedBy (op .eqEqual), comparedBy (op .notEqual), comparedBy (op .lessEqual),
      comparedBy (op .less), comparedBy (op .greaterEqual), comparedBy (op .greater),
      items [word .not, word .in, expr .bitwiseOr],
      alt [word .in, expr .bitwiseOr] (make fun m => .membership m.line .nothing),
      items [word .is, word .not, expr .bitwiseOr],
      comparedBy (word .is)]
  | .bitwiseOr => leftRecursive [
      operation .bitwiseOr .vBar .bitwiseXor,
      same (.expression .bitwiseXor)]
  | .bitwiseXor => leftRecursive [
      operation .bitwiseXor .circumflex .bitwiseAnd,
      same (.expression .bitwiseAnd)]
  | .bitwiseAnd => leftRecursive [
      operation .bitwiseAnd .amper .shift,
      same (.expression .shift)]
  | .shift => leftRecursive [
      operation .shift .leftShift .sum,
      operation .shift .rightShift .sum,
      same (.expression .sum)]
  | .sum => leftRecursive [
      operation .sum .plus .term,
      operation .sum .minus .term,
      same (.expression .term)]
  | .term => leftRecursive [
      operation .term .star .factor,
      operation .term .slash .factor,
      operation .term .doubleSlash .factor,
      operation .term .percent .factor,
      alt [expr .term, op .at, expr .factor] (since 5),
      same (.expression .factor)]
  | .factor => remembered [
      items [op .plus, expr .factor],
      items [op .minus, expr .factor],
      items [op .tilde, expr .factor],
      same (.expression .power)]
  | .power => direct [
      operation .awaitPrimary .doubleStar .factor,
      same (.expression .awaitPrimary)]
  | .awaitPrimary => remembered [
      alt [word .await, expr .primary] (since 5),
      same (.expression .primary)]
  | .primary => leftRecursive [
      alt [expr .primary, op .dot, name] (make fun m => .place m.line),
      items [expr .primary, expr .generator],
      items [expr .primary, op .lPar, .optional (expr .arguments), op .rPar],
      alt [expr .primary, op .lSqb, expr .slices, op .rSqb] (make fun m => .place m.line),
      same (.expression .atom)]
  | .slices => direct [
      alt [expr .slice, notFollowedBy (op .comma)] (pick 0),
      items [commas (oneOf [expr .slice, expr .starredExpression]), maybeComma]]
  | .slice => direct [
      items [.optional (expr .expression), op .colon, .optional (expr .expression),
        maybe [op .colon, .optional (expr .expression)]],
      same (.expression .namedExpression)]
  | .atom => direct [
      alt [name] (pick 0),
      items [word .true], items [word .false], items [word .none],
      alt [followedBy (.terminal .string), expr .strings] (pick 1),
      alt [.terminal .number] (pick 0),
      alt [followedBy (op .lPar), oneOf [expr .tuple, expr .group, expr .generator]] (pick 1),
      alt [followedBy (op .lSqb), oneOf [expr .list, expr .listComprehension]] (pick 1),
      alt [followedBy (op .lBrace),
        oneOf [expr .dict, expr .set, expr .dictComprehension, expr .setComprehension]] (pick 1),
      items [op .ellipsis]]
  | .strings => remembered [
      alt [.many1 (.terminal .string)] fun m =>
        match literalFault? m.version m.embedded (m.value 0).elements with
        | some site => .fault site
        | none => plainly m]
  | .group => direct [
      alt [op .lPar, oneOf [expr .yieldExpression, expr .namedExpression], op .rPar] (pick 1),
      diagnosis (.expression .faultyGroup)]
  | .lambda => direct [
      items [word .lambda, .optional (.rule (.parameter true .signature)), op .colon,
        expr .expression]]
  | .list => direct [
      alt [op .lSqb, .optional (expr .starNamedExpressions), op .rSqb]
        (make fun m => .sequence m.line (m.value 1).elements)]
  | .tuple => direct [
      alt [op .lPar, expr .starNamedExpression, op .comma,
          .optional (expr .starNamedExpressions), op .rPar]
        (make fun m => .sequence m.line (m.value 1 :: (m.value 3).elements)),
      alt [op .lPar, op .rPar] (make fun m => .sequence m.line [])]
  | .set => direct [
      items [op .lBrace, expr .starNamedExpressions, op .rBrace]]
  | .dict => direct [
      items [op .lBrace, .optional (expr .pairs), op .rBrace],
      items [op .lBrace, expr .faultyPairs, op .rBrace]]
  | .pairs => direct [
      items [commas (expr .pairOrUnpacking), maybeComma]]
  | .pairOrUnpacking => direct [
      items [op .doubleStar, expr .bitwiseOr],
      same (.expression .pair)]
  | .pair => direct [
      items [expr .expression, op .colon, expr .expression]]
  | .listComprehension => direct [
      items [op .lSqb, expr .namedExpression, expr .clauses, op .rSqb],
      diagnosis (.expression .faultyComprehension)]
  | .setComprehension => direct [
      items [op .lBrace, expr .namedExpression, expr .clauses, op .rBrace],
      diagnosis (.expression .faultyComprehension)]
  | .generator => direct [
      items [op .lPar, argumentValue, expr .clauses, op .rPar],
      diagnosis (.expression .faultyComprehension)]
  | .dictComprehension => direct [
      items [op .lBrace, expr .pair, expr .clauses, op .rBrace],
      diagnosis (.expression .faultyDictComprehension)]
  | .clauses => direct [items [.many1 (expr .clause)]]
  | .clause => direct [
      alt [word .async, word .for, expr .starTargets, word .in, .cut, expr .disjunction,
        .many (.group [[word .if, expr .disjunction]])] (since 6),
      items [word .for, expr .starTargets, word .in, .cut, expr .disjunction,
        .many (.group [[word .if, expr .disjunction]])],
      diagnosis (.expression .faultyLoopTarget)]
  | .arguments => remembered [
      alt [expr .argumentList, maybeComma, followedBy (op .rPar)] (pick 0),
      diagnosis (.expression .faultyArguments)]
  | .argumentList => direct [
      alt [commas (.group [[expr .starredExpression],
            [argumentValue, notFollowedBy (op .equal)]]),
          maybe [op .comma, expr .keywordArguments]]
        (make fun m => argumentsOf (m.value 0) (m.value 1) m.line),
      alt [expr .keywordArguments] (make fun m => argumentsOf .nothing (m.value 0) m.line)]
  | .keywordArguments => direct [
      alt [commas (expr .keywordOrStarred), op .comma, commas (expr .keywordOrDoubleStarred)]
        (make fun m => .sequence m.line ((m.value 0).elements ++ (m.value 2).elements)),
      alt [commas (expr .keywordOrStarred)] (pick 0),
      alt [commas (expr .keywordOrDoubleStarred)] (pick 0)]
  | .keywordOrStarred => direct [
      diagnosis (.expression .faultyKeyword),
      items [name, op .equal, expr .expression],
      same (.expression .starredExpression)]
  | .keywordOrDoubleStarred => direct [
      diagnosis (.expression .faultyKeyword),
      items [name, op .equal, expr .expression],
      items [op .doubleStar, expr .expression]]
  | .starredExpression => direct [
      alt [op .star, expr .expression] (make fun m => .starred m.line (m.value 1))]
  | .starTargets => direct [
      alt [expr .starTarget, notFollowedBy (op .comma)] (pick 0),
      items [expr .starTarget, .many (.group [[op .comma, expr .starTarget]]), maybeComma]]
  | .starTargetsOfList => direct [items [commas (expr .starTarget), maybeComma]]
  | .starTargetsOfTuple => direct [
      items [expr .starTarget, .many1 (.group [[op .comma, expr .starTarget]]), maybeComma],
      items [expr .starTarget, op .comma]]
  | .starTarget => remembered [
      items [op .star, .group [[notFollowedBy (op .star), expr .starTarget]]],
      same (.expression .targetWithStarAtom)]
  | .targetWithStarAtom => remembered [
      items [expr .targetPrimary, op .dot, name, notFollowedBy (expr .targetContinues)],
      items [expr .targetPrimary, op .lSqb, expr .slices, op .rSqb,
        notFollowedBy (expr .targetContinues)],
      same (.expression .starAtom)]
  | .starAtom => direct [
      items [name],
      items [op .lPar, expr .targetWithStarAtom, op .rPar],
      items [op .lPar, .optional (expr .starTargetsOfTuple), op .rPar],
      items [op .lSqb, .optional (expr .starTargetsOfList), op .rSqb]]
  | .singleTarget => direct [
      same (.expression .singlePlace),
      items [name],
      items [op .lPar, expr .singleTarget, op .rPar]]
  | .singlePlace => direct [
      items [expr .targetPrimary, op .dot, name, notFollowedBy (expr .targetContinues)],
      items [expr .targetPrimary, op .lSqb, expr .slices, op .rSqb,
        notFollowedBy (expr .targetContinues)]]
  | .targetPrimary => leftRecursive [
      items [expr .targetPrimary, op .dot, name, followedBy (expr .targetContinues)],
      items [expr .targetPrimary, op .lSqb, expr .slices, op .rSqb,
        followedBy (expr .targetContinues)],
      items [expr .targetPrimary, expr .generator, followedBy (expr .targetContinues)],
      items [expr .targetPrimary, op .lPar, .optional (expr .arguments), op .rPar,
        followedBy (expr .targetContinues)],
      items [expr .atom, followedBy (expr .targetContinues)]]
  | .targetContinues => direct [items [op .lPar], items [op .lSqb], items [op .dot]]
  | .deletedTargets => direct [items [commas (expr .deletedTarget), maybeComma]]
  | .deletedTarget => remembered [
      items [expr .targetPrimary, op .dot, name, notFollowedBy (expr .targetContinues)],
      items [expr .targetPrimary, op .lSqb, expr .slices, op .rSqb,
        notFollowedBy (expr .targetContinues)],
      same (.expression .deletedAtom)]
  | .deletedAtom => direct [
      items [name],
      items [op .lPar, expr .deletedTarget, op .rPar],
      items [op .lPar, .optional (expr .deletedTargets), op .rPar],
      items [op .lSqb, .optional (expr .deletedTargets), op .rSqb]]
  | .faultyArguments => direct [
      alt [expr .argumentList, op .comma, op .star] (faultAt 0),
      alt [expr .expression, expr .clauses, op .comma,
        .optional (.group [[expr .argumentList], [expr .expression, expr .clauses]])] (faultAt 0),
      alt [name, op .equal, expr .expression, expr .clauses] (faultAt 0),
      alt [expr .argumentList, expr .clauses] strayGenerator,
      alt [expr .argumentList, op .comma, expr .expression, expr .clauses] (faultAt 2),
      alt [expr .argumentList, op .comma, expr .argumentList] faultAtEnd]
  | .faultyKeyword => direct [
      alt [constantWord, op .equal] (faultAt 0),
      alt [name, op .equal, expr .expression, expr .clauses] (faultAt 0),
      alt [notFollowedBy (.group [[name, op .equal]]), expr .expression, op .equal] (faultAt 1)]
  | .faultyCall => direct [
      alt [name, notFollowedBy (op .lPar), expr .starExpressions] formerStatement]
  | .faultyExpression => direct [
      alt [notFollowedBy (.group [[name, .terminal .string], [.terminal .anySoft]]),
        expr .disjunction, expr .undiagnosedExpression] missingComma,
      alt [expr .disjunction, word .if, expr .disjunction,
        notFollowedBy (oneOf [word .else, op .colon])] (faultAt 0)]
  | .faultyNamedExpression => remembered [
      alt [expr .expression, op .colonEqual, expr .expression] (faultAt 0),
      alt [name, op .equal, expr .bitwiseOr, notFollowedBy assignmentSign] (faultAt 0),
      alt [notFollowedBy (oneOf [expr .list, expr .tuple, expr .generator, word .true, word .none,
          word .false]),
        expr .bitwiseOr, op .equal, expr .bitwiseOr, notFollowedBy assignmentSign] (faultAt 1)]
  | .faultyComprehension => direct [
      alt [oneOf [op .lSqb, op .lPar, op .lBrace], expr .starredExpression, expr .clauses]
        (faultAt 1),
      alt [oneOf [op .lSqb, op .lBrace], expr .starNamedExpression, op .comma,
        expr .starNamedExpressions, expr .clauses] (faultAt 1),
      alt [oneOf [op .lSqb, op .lBrace], expr .starNamedExpression, op .comma, expr .clauses]
        (faultAt 1)]
  | .faultyDictComprehension => direct [
      alt [op .lBrace, op .doubleStar, expr .bitwiseOr, expr .clauses, op .rBrace] (faultAt 1)]
  | .faultyGroup => direct [
      alt [op .lPar, expr .starredExpression, op .rPar] (faultAt 1),
      alt [op .lPar, op .doubleStar, expr .expression, op .rPar] (faultAt 1)]
  | .faultyPairs => direct [
      items [commas (expr .pairOrUnpacking), op .comma, expr .faultyPair],
      alt [expr .expression, op .colon, op .star, expr .bitwiseOr] (faultAt 2),
      alt [expr .expression, op .colon, followedBy (oneOf [op .rBrace, op .comma])] (faultAt 1)]
  | .faultyPair => direct [
      alt [expr .expression, notFollowedBy (op .colon)] (faultAt 0),
      alt [expr .expression, op .colon, op .star, expr .bitwiseOr] (faultAt 2),
      alt [expr .expression, op .colon, followedBy (oneOf [op .rBrace, op .comma])] (faultAt 1)]
  | .faultyLoopTarget => direct [
      alt [.optional (word .async), word .for, expr .starExpressions] (faultyTarget .loop 2)]

end AnnotatedMarkdown.Python.Recognition
