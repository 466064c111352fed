import AnnotatedMarkdown.Python.Recognition.Rule

/-!
# Recognition of parameter lists

The definitions of the rules of parameter lists.  Those of functions end at a
parenthesis and have annotations, those of `lambda` end at a colon and have none.
-/

namespace AnnotatedMarkdown.Python.Recognition

/-- The lexeme that ends a parameter list. -/
def parametersEnd (isLambda : Bool) : Item :=
  op (if isLambda then .colon else .rPar)

/-- A type comment after a parameter of a function. -/
def parameterComment (isLambda : Bool) : List Item :=
  if isLambda then [] else [.optional typeComment]

/-- A parameter with the comma or the end of the list after it. -/
def closedParameter (isLambda : Bool) (front : List Item) : List Alternative :=
  [items (front ++ op .comma :: parameterComment isLambda),
    items (front ++ parameterComment isLambda ++ [followedBy (parametersEnd isLambda)])]

/-- The slash after parameters that are given by position only. -/
def closedSlash (isLambda : Bool) (front : List Item) : List Alternative :=
  [items (front ++ [op .slash, op .comma]),
    items (front ++ [op .slash, followedBy (parametersEnd isLambda)])]

/-- The definitions of the rules of parameter lists. -/
def parameterDefinition (isLambda : Bool) (r : ParameterRule) : Definition :=
  let param (r : ParameterRule) : Item := .rule (.parameter isLambda r)
  let slashed : Item := oneOf [param .slashNoDefault, param .slashWithDefault]
  let parameterOrComma : Item := oneOf [op .comma, param .noDefault]
  match r with
  | .signature => direct [
      diagnosis (.parameter isLambda .faultySignature),
      same (.parameter isLambda .parameters)]
  | .parameters => direct [
      alt [param .slashNoDefault, .many (param .noDefault), .many (param .withDefault),
        .optional (param .starPart)] (since 8),
      alt [param .slashWithDefault, .many (param .withDefault), .optional (param .starPart)]
        (since 8),
      items [.many1 (param .noDefault), .many (param .withDefault),
        .optional (param .starPart)],
      items [.many1 (param .withDefault), .optional (param .starPart)],
      same (.parameter isLambda .starPart)]
  | .slashNoDefault => direct (closedSlash isLambda [.many1 (param .noDefault)])
  | .slashWithDefault =>
    direct (closedSlash isLambda [.many (param .noDefault), .many1 (param .withDefault)])
  | .starPart => direct (
      [diagnosis (.parameter isLambda .faultyStarPart),
        items [op .star, param .noDefault, .many (param .maybeDefault),
          .optional (param .keywordPart)]]
      ++ (if isLambda then []
        else [items [op .star, param .noDefaultStarAnnotated, .many (param .maybeDefault),
          .optional (param .keywordPart)]])
      ++ [items [op .star, op .comma, .many1 (param .maybeDefault),
          .optional (param .keywordPart)],
        same (.parameter isLambda .keywordPart)])
  | .keywordPart => direct [
      diagnosis (.parameter isLambda .faultyKeywordPart),
      items [op .doubleStar, param .noDefault]]
  | .noDefault => direct (closedParameter isLambda [param .parameter])
  | .noDefaultStarAnnotated => direct (closedParameter isLambda [param .starAnnotated])
  | .withDefault => direct (closedParameter isLambda [param .parameter, param .default])
  | .maybeDefault =>
    direct (closedParameter isLambda [param .parameter, .optional (param .default)])
  | .parameter =>
    direct [items (name :: if isLambda then [] else [maybe [op .colon, expr .expression]])]
  | .starAnnotated => direct [items [name, op .colon, expr .starExpression]]
  | .default => direct [
      items [op .equal, expr .expression],
      diagnosis (.parameter isLambda .faultyDefault)]
  | .faultySignature => direct [
      alt [.many (param .noDefault), param .defaultsInFront, param .noDefault] (faultAt 2),
      alt [.many (param .noDefault), op .lPar,
        if isLambda then commas (param .parameter) else .many1 (param .noDefault), maybeComma,
        op .rPar] (faultAt 1),
      alt [op .slash, op .comma] (faultAt 0),
      alt [slashed, .many (param .maybeDefault), op .slash] (faultAt 2),
      alt [.optional slashed, .many (param .maybeDefault), op .star, parameterOrComma,
        .many (param .maybeDefault), op .slash] (faultAt 5),
      alt [.many1 (param .maybeDefault), op .slash, op .star] (faultAt 2)]
  | .defaultsInFront => direct [
      same (.parameter isLambda .slashWithDefault),
      items [.many1 (param .withDefault)]]
  | .faultyDefault => direct [
      alt [op .equal, followedBy (oneOf [op .rPar, op .comma])] (faultAt 0)]
  | .faultyStarPart => direct (
      alt [op .star, .group [[parametersEnd isLambda],
          [op .comma, oneOf [parametersEnd isLambda, op .doubleStar]]]]
        (if isLambda then faultAtEnd else faultAt 0)
      :: (if isLambda then [] else [alt [op .star, op .comma, typeComment] faultAtEnd])
      ++ [alt [op .star, param .parameter, op .equal] (faultAt 2),
        alt [op .star, oneOf [param .noDefault, op .comma], .many (param .maybeDefault), op .star,
          oneOf [param .noDefault, op .comma]] (faultAt 3)])
  | .faultyKeywordPart => direct [
      alt [op .doubleStar, param .parameter, op .equal] (faultAt 2),
      alt [op .doubleStar, param .parameter, op .comma, param .parameter] (faultAt 3),
      alt [op .doubleStar, param .parameter, op .comma,
        oneOf [op .star, op .doubleStar, op .slash]] (faultAt 3)]

end AnnotatedMarkdown.Python.Recognition
