import AnnotatedMarkdown.Python.Literal
import AnnotatedMarkdown.Python.Recognition.Rule

/-!
# Recognition of patterns

The definitions of the rules of the patterns in a `match` statement.
-/

namespace AnnotatedMarkdown.Python.Recognition

/-- Whether a constituent is an imaginary number. -/
def isImaginary : Node → Bool
  | .number _ spelling =>
    match numberConstant? spelling with
    | some (.imaginary _) => true
    | _ => false
  | _ => false

/-- A number that must be imaginary, or must not be. -/
def numberPart (imaginary : Bool) : Action := fun m =>
  if isImaginary (m.value 0) = imaginary then pick 0 m else faultAt 0 m

/-- What can follow a name that is not a pattern of its own. -/
def nameContinues : Item := oneOf [op .dot, op .lPar, op .equal]

/-- The literals that are patterns and keys. -/
def literalAlternatives : List Alternative := [
  items [pat .signedNumber, notFollowedBy (oneOf [op .plus, op .minus])],
  items [pat .complexNumber],
  items [expr .strings],
  items [word .none], items [word .true], items [word .false]]

/-- The definitions of the rules of patterns. -/
def patternDefinition : PatternRule → Definition
  | .patterns => direct [
      items [pat .openSequencePattern],
      same (.pattern .pattern)]
  | .pattern => direct [
      same (.pattern .asPattern),
      same (.pattern .orPattern)]
  | .asPattern => direct [
      items [pat .orPattern, word .as, pat .captureTarget],
      diagnosis (.pattern .faultyAsPattern)]
  | .orPattern => direct [
      alt [.separated (.op .vBar) (pat .closedPattern)] (make fun m =>
        match (m.value 0).elements with
        | [p] => p
        | _ => .plain m.line)]
  | .closedPattern => remembered [
      same (.pattern .literalPattern), same (.pattern .capturePattern),
      same (.pattern .wildcardPattern), same (.pattern .valuePattern),
      same (.pattern .groupPattern), same (.pattern .sequencePattern),
      same (.pattern .mappingPattern), same (.pattern .classPattern)]
  | .literalPattern => direct literalAlternatives
  | .literalExpression => direct literalAlternatives
  | .complexNumber => direct [
      items [pat .signedRealNumber, op .plus, pat .imaginaryNumber],
      items [pat .signedRealNumber, op .minus, pat .imaginaryNumber]]
  | .signedNumber => direct [
      items [.terminal .number],
      items [op .minus, .terminal .number]]
  | .signedRealNumber => direct [
      same (.pattern .realNumber),
      items [op .minus, pat .realNumber]]
  | .realNumber => direct [alt [.terminal .number] (numberPart false)]
  | .imaginaryNumber => direct [alt [.terminal .number] (numberPart true)]
  | .capturePattern => direct [same (.pattern .captureTarget)]
  | .captureTarget => direct [
      alt [notFollowedBy lowLine, name, notFollowedBy nameContinues] (pick 1)]
  | .wildcardPattern => direct [items [lowLine]]
  | .valuePattern => direct [items [pat .attribute, notFollowedBy nameContinues]]
  | .attribute => leftRecursive [items [pat .nameOrAttribute, op .dot, name]]
  | .nameOrAttribute => direct [same (.pattern .attribute), items [name]]
  | .groupPattern => direct [alt [op .lPar, pat .pattern, op .rPar] (pick 1)]
  | .sequencePattern => direct [
      items [op .lSqb, .optional (pat .maybeSequencePattern), op .rSqb],
      items [op .lPar, .optional (pat .openSequencePattern), op .rPar]]
  | .openSequencePattern => direct [
      items [pat .maybeStarPattern, op .comma, .optional (pat .maybeSequencePattern)]]
  | .maybeSequencePattern => direct [items [commas (pat .maybeStarPattern), maybeComma]]
  | .maybeStarPattern => direct [same (.pattern .starPattern), same (.pattern .pattern)]
  | .starPattern => remembered [
      items [op .star, pat .captureTarget],
      items [op .star, pat .wildcardPattern]]
  | .mappingPattern => direct [
      items [op .lBrace, op .rBrace],
      items [op .lBrace, pat .doubleStarPattern, maybeComma, op .rBrace],
      items [op .lBrace, pat .itemsPattern, op .comma, pat .doubleStarPattern, maybeComma,
        op .rBrace],
      items [op .lBrace, pat .itemsPattern, maybeComma, op .rBrace]]
  | .itemsPattern => direct [items [commas (pat .keyValuePattern)]]
  | .keyValuePattern => direct [
      items [oneOf [pat .literalExpression, pat .attribute], op .colon, pat .pattern]]
  | .doubleStarPattern => direct [items [op .doubleStar, pat .captureTarget]]
  | .classPattern => direct [
      items [pat .nameOrAttribute, op .lPar, op .rPar],
      items [pat .nameOrAttribute, op .lPar, pat .positionalPatterns, maybeComma, op .rPar],
      items [pat .nameOrAttribute, op .lPar, pat .keywordPatterns, maybeComma, op .rPar],
      items [pat .nameOrAttribute, op .lPar, pat .positionalPatterns, op .comma,
        pat .keywordPatterns, maybeComma, op .rPar],
      diagnosis (.pattern .faultyClassPattern)]
  | .positionalPatterns => direct [alt [commas (pat .pattern)] (pick 0)]
  | .keywordPatterns => direct [items [commas (pat .keywordPattern)]]
  | .keywordPattern => direct [items [name, op .equal, pat .pattern]]
  | .faultyAsPattern => direct [
      alt [pat .orPattern, word .as, lowLine] (faultAt 2),
      alt [pat .orPattern, word .as, notFollowedBy name, expr .expression] (faultAt 3)]
  | .faultyClassPattern => direct [
      alt [pat .nameOrAttribute, op .lPar, pat .misplacedPositionals] fun m =>
        match (m.value 2).elements with
        | p :: _ => .fault (.line p.line)
        | [] => .refused]
  | .misplacedPositionals => direct [
      alt [maybe [pat .positionalPatterns, op .comma], pat .keywordPatterns, op .comma,
        pat .positionalPatterns] (pick 3)]

end AnnotatedMarkdown.Python.Recognition
