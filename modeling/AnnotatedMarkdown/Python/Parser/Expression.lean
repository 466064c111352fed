import AnnotatedMarkdown.Python.FormatString
import AnnotatedMarkdown.Python.Lexer
import AnnotatedMarkdown.Python.Parser.Basic

/-!
# Parsers of expressions

The grammar of expressions, one function for each rule.  The rules refer to each
other in circles; every circle passes through a field of `Grammar`, which holds the
parsers for the constituents that stand one level deeper in the text.
-/

namespace AnnotatedMarkdown.Python

open AnnotatedMarkdown.Python.Parser

/-- The parsers of the constituents that a rule contains, with the version of the
grammar and the reading of the words `async` and `await`. -/
structure Grammar where
  version : Nat
  asyncReserved : Bool
  expression : Parser Expr
  disjunction : Parser Expr
  inversion : Parser Expr
  bitwiseOr : Parser Expr
  factor : Parser Expr
  primary : Parser Expr
  embedded : List Char → Option Expr
  pattern : Parser Pattern
  block : Parser (List Stmt)

namespace Grammar

variable (g : Grammar)

/-- Refuses a construct that came after the version of the grammar. -/
def since (version : Nat) : Parser Unit :=
  if version ≤ g.version then pure () else refuse

/-! ## Expression lists -/

/-- An assignment expression, or an expression. -/
def namedExpression : Parser Expr := do
  match ← peek, ← peekSecond with
  | some (.name _), some (.op .colonEqual) =>
    let target ← name
    advance
    let value ← g.expression
    g.since 8
    return .named target value
  | _, _ => g.expression

/-- A starred expression. -/
def starred : Parser Expr := do
  op .star
  return .starred (← g.bitwiseOr)

/-- An element of a display or a tuple in parentheses. -/
def starNamedExpression : Parser Expr := do
  if ← sees (.op .star) then g.starred else g.namedExpression

/-- An element of an expression list. -/
def starExpression : Parser Expr := do
  if ← sees (.op .star) then g.starred else g.expression

/-- An expression list in which expressions may be starred. -/
def starExpressions : Parser Expr := do
  let (elements, trailing) ← commaListTrailing g.starExpression
  return tupleOf elements trailing

/-- An expression list. -/
def expressions : Parser Expr := do
  let (elements, trailing) ← commaListTrailing g.expression
  return tupleOf elements trailing

/-- A yield expression. -/
def yieldExpression : Parser Expr := do
  word .yield
  if ← accept (.word .from) then
    return .yieldFrom (← g.expression)
  else
    return .yield (← maybe g.starExpressions)

/-- What may stand on the right of an assignment. -/
def rightHandSide : Parser Expr := do
  if ← sees (.word .yield) then g.yieldExpression else g.starExpressions

/-! ## Targets -/

end Grammar

mutual

/-- Whether an expression can be the target of an assignment. -/
def Expr.isTarget : Expr → Bool
  | .name _ => true
  | .attribute _ _ => true
  | .subscript _ _ => true
  | .list elements => areTargets elements
  | .tuple elements => areTargets elements
  | _ => false

/-- Whether expressions can be the targets within a target; each may be starred. -/
def areTargets : List Expr → Bool
  | [] => true
  | .starred e :: es => e.isTarget && areTargets es
  | e :: es => e.isTarget && areTargets es

end

mutual

/-- Whether an expression can be deleted. -/
def Expr.isDeletable : Expr → Bool
  | .name _ => true
  | .attribute _ _ => true
  | .subscript _ _ => true
  | .list elements => areDeletable elements
  | .tuple elements => areDeletable elements
  | _ => false

/-- Whether all of several expressions can be deleted. -/
def areDeletable : List Expr → Bool
  | [] => true
  | e :: es => e.isDeletable && areDeletable es

end

/-- Whether an expression can be annotated or assigned with an operator. -/
def Expr.isSingleTarget : Expr → Bool
  | .name _ => true
  | .attribute _ _ => true
  | .subscript _ _ => true
  | _ => false

namespace Grammar

variable (g : Grammar)

/-- One target, possibly starred. -/
def starTarget : Parser Expr := do
  if ← accept (.op .star) then
    let e ← g.primary
    ensure e.isTarget
    return .starred e
  else
    let e ← g.primary
    ensure e.isTarget
    return e

/-- The targets of a loop. -/
def starTargets : Parser Expr := do
  let (elements, trailing) ← commaListTrailing g.starTarget
  return tupleOf elements trailing

/-! ## Comprehensions -/

/-- A clause of a comprehension. -/
def clause : Parser Clause := do
  let isAsync ← accept (.word .async)
  word .for
  let target ← g.starTargets
  word .in
  let source ← g.disjunction
  let conditions ← many (do word .if; g.disjunction)
  if isAsync then g.since 6
  return .mk isAsync target source conditions

/-- The clauses of a comprehension. -/
def clauses : Parser (List Clause) :=
  many1 g.clause

/-- Whether a clause of a comprehension comes next. -/
def seesClause : Parser Bool := do
  return (← peek) == some (.word .for) || (← peek) == some (.word .async)

/-! ## Parameters -/

/-- An item of a parameter list. -/
inductive ParameterItem where
  | plain (name : String) (hint fallback : Option Expr)
  | slash
  | star (parameter : Option (String × Option Expr))
  | doubleStar (name : String) (hint : Option Expr)

/-- The annotation of a parameter, in a list that allows one. -/
def hint (typed : Bool) : Parser (Option Expr) :=
  if typed then after? (.op .colon) g.expression else pure none

/-- The annotation of a variadic parameter, which may be starred. -/
def starHint (typed : Bool) : Parser (Option Expr) :=
  if typed then after? (.op .colon) g.starExpression else pure none

/-- An item of a parameter list. -/
def parameterItem (typed : Bool) : Parser ParameterItem := do
  match ← peek with
  | some (.op .slash) =>
    advance
    g.since 8
    return .slash
  | some (.op .star) =>
    advance
    match ← peek with
    | some (.name _) =>
      let id ← name
      return .star (some (id, ← g.starHint typed))
    | _ => return .star none
  | some (.op .doubleStar) =>
    advance
    let id ← name
    return .doubleStar id (← g.hint typed)
  | _ =>
    let id ← name
    let hint ← g.hint typed
    let fallback ← after? (.op .equal) g.expression
    return .plain id hint fallback

/-- The parameters after a star. -/
def keywordParameters : List ParameterItem → Option (List Parameter)
  | [] => some []
  | .plain id hint fallback :: items =>
    (keywordParameters items).map (.mk .keywordOnly id hint fallback :: ·)
  | [.doubleStar id hint] => some [.mk .variadicKeyword id hint none]
  | _ => none

/-- The parameters of a list, each of the kind that its place gives it; `defaulted`
tells that a positional parameter with a default value came before. -/
def arrangeParameters : (defaulted : Bool) → List ParameterItem → Option (List Parameter)
  | _, [] => some []
  | defaulted, .plain id hint fallback :: items =>
    if defaulted && fallback.isNone then none
    else
      (arrangeParameters fallback.isSome items).map (.mk .regular id hint fallback :: ·)
  | _, .star (some (id, hint)) :: items =>
    (keywordParameters items).map (.mk .variadic id hint none :: ·)
  | _, .star none :: items =>
    match items with
    | .plain _ _ _ :: _ => keywordParameters items
    | _ => none
  | _, [.doubleStar id hint] => some [.mk .variadicKeyword id hint none]
  | _, _ => none

/-- Marks the parameters before a slash as positional. -/
def markPositional : Parameter → Parameter
  | .mk .regular id hint fallback => .mk .positionalOnly id hint fallback
  | p => p

/-- Whether an item is the slash. -/
def ParameterItem.isSlash : ParameterItem → Bool
  | .slash => true
  | _ => false

/-- Whether an item is a parameter with a default value. -/
def ParameterItem.hasFallback : ParameterItem → Bool
  | .plain _ _ fallback => fallback.isSome
  | _ => false

/-- The parameters of a list of items. -/
def parametersOf (items : List ParameterItem) : Option (List Parameter) :=
  let before := items.takeWhile fun i => !i.isSlash
  match items.drop before.length with
  | [] => arrangeParameters false items
  | _ :: behind =>
    if before.isEmpty || !before.all (fun i => match i with | .plain .. => true | _ => false) then none
    else do
      let front ← arrangeParameters false before
      let back ← arrangeParameters (before.any ParameterItem.hasFallback) behind
      some (front.map markPositional ++ back)

/-- A parameter list. -/
def parameters (typed : Bool) : Parser (List Parameter) := do
  let (items, _) ← commaListTrailing (g.parameterItem typed)
  fromOption (parametersOf items)

/-- A lambda expression. -/
def lambda : Parser Expr := do
  word .lambda
  let parameters ← if ← sees (.op .colon) then pure [] else g.parameters false
  op .colon
  return .lambda parameters (← g.expression)

/-! ## Atoms -/

/-- The expression of adjacent string tokens. -/
def stringsExpr? (spellings : List (List Char)) : Option Expr :=
  let tokens := spellings.map StringToken.ofSpelling
  if tokens.all StringToken.isBytes then
    (tokens.mapM fun t => stringBytes? t.isRaw t.body).map fun parts =>
      .constant (.bytes parts.flatten)
  else if tokens.any StringToken.isBytes then none
  else if g.version < 6 && tokens.any StringToken.isFormat then none
  else
    let unicodeMark := (spellings.head?.bind List.head?) == some 'u'
    let pieces (t : StringToken) : Option (List Piece) :=
      if t.isFormat then
        (formatPieces ⟨g.embedded, t.isRaw, unicodeMark, 8 ≤ g.version⟩ t.body).toOption
      else (stringText? t.isRaw t.body).map fun text => [.text text]
    (tokens.mapM pieces).map fun pieces =>
      if tokens.any StringToken.isFormat then .joined (joinPieces unicodeMark pieces.flatten)
      else
        .constant (.string (pieces.flatten.flatMap fun
          | .text t => t
          | .field _ => []) unicodeMark)

/-- The spelling of a string token. -/
def stringSpelling : Parser (List Char) := fun tokens =>
  match tokens with
  | ⟨.string spelling, _⟩ :: rest => .ok (spelling, rest)
  | _ => .error .mismatch

/-- Adjacent string tokens. -/
def strings : Parser Expr := do
  let spellings ← many1 stringSpelling
  match g.stringsExpr? spellings with
  | some e => return e
  | none => refuse

/-- A number. -/
def number : Parser Constant := do
  match ← peek with
  | some (.number spelling) =>
    advance
    if spelling.contains '_' then g.since 6
    match numberConstant? spelling with
    | some c => return c
    | none => refuse
  | _ => mismatch

/-- What follows an opening parenthesis: a tuple, an expression in parentheses or a
generator. -/
def afterParenthesis : Parser Expr := do
  if ← accept (.op .rPar) then
    return .tuple []
  else if ← sees (.word .yield) then
    let e ← g.yieldExpression
    op .rPar
    return e
  else
    let isStarred ← sees (.op .star)
    let first ← g.starNamedExpression
    if ← accept (.op .comma) then
      if ← accept (.op .rPar) then
        return .tuple [first]
      else
        let (more, _) ← commaListTrailing g.starNamedExpression
        op .rPar
        return .tuple (first :: more)
    else if isStarred then mismatch
    else if ← seesClause then
      let clauses ← g.clauses
      op .rPar
      return .generator first clauses
    else
      op .rPar
      return first

/-- What follows an opening square bracket: a list or a list comprehension. -/
def afterBracket : Parser Expr := do
  if ← accept (.op .rSqb) then
    return .list []
  else
    let isStarred ← sees (.op .star)
    let first ← g.starNamedExpression
    if !isStarred && (← seesClause) then
      let clauses ← g.clauses
      op .rSqb
      return .listComp first clauses
    else
      let more ← many (do op .comma; g.starNamedExpression)
      let _ ← accept (.op .comma)
      op .rSqb
      return .list (first :: more)

/-- An item of a dictionary display. -/
def dictItem : Parser DictItem := do
  if ← accept (.op .doubleStar) then
    return .unpack (← g.bitwiseOr)
  else
    let key ← g.expression
    op .colon
    return .pair key (← g.expression)

/-- The rest of a set display after its first element. -/
def setRest (first : Expr) : Parser Expr := do
  let more ← many (do op .comma; g.starNamedExpression)
  let _ ← accept (.op .comma)
  op .rBrace
  return .set (first :: more)

/-- The rest of a dictionary display after its first item. -/
def dictRest (first : DictItem) : Parser Expr := do
  let more ← many (do op .comma; g.dictItem)
  let _ ← accept (.op .comma)
  op .rBrace
  return .dict (first :: more)

/-- What follows an opening brace: a dictionary, a set, or a comprehension of one. -/
def afterBrace : Parser Expr := do
  if ← accept (.op .rBrace) then
    return .dict []
  else
    match ← peek, ← peekSecond with
    | some (.op .doubleStar), _ => g.dictRest (← g.dictItem)
    | some (.op .star), _ => g.setRest (← g.starred)
    | some (.name _), some (.op .colonEqual) =>
      let first ← g.namedExpression
      if ← seesClause then
        let clauses ← g.clauses
        op .rBrace
        return .setComp first clauses
      else g.setRest first
    | _, _ =>
      let first ← g.expression
      if ← accept (.op .colon) then
        let value ← g.expression
        if ← seesClause then
          let clauses ← g.clauses
          op .rBrace
          return .dictComp first value clauses
        else g.dictRest (.pair first value)
      else if ← seesClause then
        let clauses ← g.clauses
        op .rBrace
        return .setComp first clauses
      else g.setRest first

/-- An atom. -/
def atom : Parser Expr := do
  match ← peek with
  | some (.name _) => return .name (← name)
  | some (.word .none) =>
    advance
    return .constant .none
  | some (.word .true) =>
    advance
    return .constant .true
  | some (.word .false) =>
    advance
    return .constant .false
  | some (.number _) => return .constant (← g.number)
  | some (.string _) => g.strings
  | some (.op .ellipsis) =>
    advance
    return .constant .ellipsis
  | some (.op .lPar) =>
    advance
    g.afterParenthesis
  | some (.op .lSqb) =>
    advance
    g.afterBracket
  | some (.op .lBrace) =>
    advance
    g.afterBrace
  | _ => mismatch

/-! ## Calls and subscripts -/

/-- An argument of a call. -/
inductive ArgumentItem where
  | positional (e : Expr)
  | starred (e : Expr)
  | keyword (name : String) (e : Expr)
  | unpack (e : Expr)

/-- An argument of a call. -/
def argument : Parser ArgumentItem := do
  match ← peek, ← peekSecond with
  | some (.op .star), _ =>
    advance
    return .starred (← g.expression)
  | some (.op .doubleStar), _ =>
    advance
    return .unpack (← g.expression)
  | some (.name _), some (.op .equal) =>
    let id ← name
    advance
    return .keyword id (← g.expression)
  | _, _ => return .positional (← g.namedExpression)

/-- The positional and the keyword arguments of a list.  No positional one follows a
keyword, and no starred one follows an unpacked mapping. -/
def arrangeArguments : (named unpacked : Bool) → List ArgumentItem →
    Option (List Expr × List Keyword)
  | _, _, [] => some ([], [])
  | named, unpacked, .positional e :: items =>
    if named then none
    else (arrangeArguments named unpacked items).map fun (es, ks) => (e :: es, ks)
  | named, unpacked, .starred e :: items =>
    if unpacked then none
    else (arrangeArguments named unpacked items).map fun (es, ks) => (.starred e :: es, ks)
  | _, unpacked, .keyword id e :: items =>
    (arrangeArguments true unpacked items).map fun (es, ks) => (es, .named id e :: ks)
  | _, _, .unpack e :: items =>
    (arrangeArguments true true items).map fun (es, ks) => (es, .unpack e :: ks)

/-- The rest of the arguments after the first one. -/
def argumentsRest (first : ArgumentItem) : Parser (List Expr × List Keyword) := do
  let more ← many (do op .comma; g.argument)
  let _ ← accept (.op .comma)
  op .rPar
  fromOption (arrangeArguments false false (first :: more))

/-- The arguments between parentheses, after the opening one. -/
def arguments : Parser (List Expr × List Keyword) := do
  if ← accept (.op .rPar) then return ([], [])
  else g.argumentsRest (← g.argument)

/-- The arguments of a call: a generator needs no parentheses of its own if it is the
only one. -/
def callArguments : Parser (List Expr × List Keyword) := do
  if ← accept (.op .rPar) then return ([], [])
  else
    match ← g.argument with
    | .positional element =>
      if ← seesClause then
        let clauses ← g.clauses
        op .rPar
        return ([.generator element clauses], [])
      else g.argumentsRest (.positional element)
    | first => g.argumentsRest first

/-- A part of a slice, if one stands before a colon or the end. -/
def slicePart : Parser (Option Expr) :=
  maybe g.expression

/-- The rest of a slice after its first colon. -/
def sliceRest (lower : Option Expr) : Parser Expr := do
  let upper ← g.slicePart
  let step ← if ← accept (.op .colon) then g.slicePart else pure none
  return .slice lower upper step

/-- An index: a slice, a starred expression or a named expression. -/
def index : Parser Expr := do
  match ← peek, ← peekSecond with
  | some (.op .colon), _ =>
    advance
    g.sliceRest none
  | some (.op .star), _ =>
    advance
    return .starred (← g.expression)
  | some (.name _), some (.op .colonEqual) => g.namedExpression
  | _, _ =>
    let e ← g.expression
    if ← accept (.op .colon) then g.sliceRest (some e) else return e

/-- The index of a subscript: several ones form a tuple, and so does a starred one. -/
def indices : Parser Expr := do
  let (items, trailing) ← commaListTrailing g.index
  match items with
  | [.starred e] => return .tuple [.starred e]
  | _ => return tupleOf items trailing

/-- What may follow a primary expression, as a function on it. -/
def trailer : Parser (Expr → Expr) := do
  match ← peek with
  | some (.op .dot) =>
    advance
    let id ← name
    return fun e => .attribute e id
  | some (.op .lPar) =>
    advance
    let (es, ks) ← g.callArguments
    return fun e => .call e es ks
  | some (.op .lSqb) =>
    advance
    let i ← g.indices
    op .rSqb
    return fun e => .subscript e i
  | _ => mismatch

/-- A primary expression. -/
def primaryRule : Parser Expr := do
  let e ← g.atom
  let trailers ← many g.trailer
  return trailers.foldl (fun e t => t e) e

/-! ## Operators -/

/-- Operands joined by operators of one precedence, grouped to the left. -/
def chain (operand : Parser Expr) (operator? : Lexeme → Option BinaryOp) : Parser Expr := do
  let first ← operand
  let rest ← many do
    match (← peek).bind operator? with
    | some op =>
      advance
      return (op, ← operand)
    | none => mismatch
  return rest.foldl (fun e (op, operand) => .binary e op operand) first

/-- A primary expression, possibly awaited. -/
def awaited : Parser Expr := do
  if ← accept (.word .await) then
    let e ← g.primary
    g.since 5
    return .await e
  else g.primaryRule

/-- A power. -/
def power : Parser Expr := do
  let base ← g.awaited
  match ← after? (.op .doubleStar) g.factor with
  | some exponent => return .binary base .pow exponent
  | none => return base

/-- A sign or inversion, or a power. -/
def factorRule : Parser Expr := do
  match ← peek with
  | some (.op .plus) =>
    advance
    return .unary .plus (← g.factor)
  | some (.op .minus) =>
    advance
    return .unary .minus (← g.factor)
  | some (.op .tilde) =>
    advance
    return .unary .invert (← g.factor)
  | _ => g.power

/-- A product.  The matrix product came with version 5. -/
def term : Parser Expr := do
  let first ← g.factorRule
  let rest ← many do
    match ← peek with
    | some (.op .star) => step .mult
    | some (.op .slash) => step .div
    | some (.op .doubleSlash) => step .floorDiv
    | some (.op .percent) => step .mod
    | some (.op .at) =>
      let s ← step .matMult
      g.since 5
      return s
    | _ => mismatch
  return rest.foldl (fun e (op, operand) => .binary e op operand) first
where
  step (op : BinaryOp) : Parser (BinaryOp × Expr) := do
    advance
    return (op, ← g.factorRule)

/-- A sum. -/
def sum : Parser Expr :=
  chain g.term fun
    | .op .plus => some .add
    | .op .minus => some .sub
    | _ => none

/-- A shift. -/
def shift : Parser Expr :=
  chain g.sum fun
    | .op .leftShift => some .lShift
    | .op .rightShift => some .rShift
    | _ => none

/-- A bitwise conjunction. -/
def bitwiseAnd : Parser Expr :=
  chain g.shift fun
    | .op .amper => some .bitAnd
    | _ => none

/-- A bitwise exclusive disjunction. -/
def bitwiseXor : Parser Expr :=
  chain g.bitwiseAnd fun
    | .op .circumflex => some .bitXor
    | _ => none

/-- A bitwise disjunction. -/
def bitwiseOrRule : Parser Expr :=
  chain g.bitwiseXor fun
    | .op .vBar => some .bitOr
    | _ => none

/-- An operator of a comparison. -/
def compareOp : Parser CompareOp := do
  match ← peek with
  | some (.op .eqEqual) => single .eq
  | some (.op .notEqual) => single .notEq
  | some (.op .less) => single .lt
  | some (.op .lessEqual) => single .ltE
  | some (.op .greater) => single .gt
  | some (.op .greaterEqual) => single .gtE
  | some (.word .in) => single .in
  | some (.word .not) =>
    advance
    word .in
    return .notIn
  | some (.word .is) =>
    advance
    if ← accept (.word .not) then return .isNot else return .is
  | _ => mismatch
where
  single (op : CompareOp) : Parser CompareOp := do
    advance
    return op

/-- A comparison. -/
def comparison : Parser Expr := do
  let first ← g.bitwiseOrRule
  let rest ← many do
    let op ← compareOp
    return Comparison.mk op (← g.bitwiseOrRule)
  return if rest.isEmpty then first else .compare first rest

/-- A negation, or a comparison. -/
def inversionRule : Parser Expr := do
  if ← accept (.word .not) then
    return .unary .not (← g.inversion)
  else g.comparison

/-- A conjunction. -/
def conjunction : Parser Expr := do
  let first ← g.inversionRule
  let rest ← many (do word .and; g.inversionRule)
  return if rest.isEmpty then first else .boolean .and (first :: rest)

/-- A disjunction. -/
def disjunctionRule : Parser Expr := do
  let first ← g.conjunction
  let rest ← many (do word .or; g.conjunction)
  return if rest.isEmpty then first else .boolean .or (first :: rest)

/-- An expression: a lambda expression, or a disjunction that may be conditional. -/
def expressionRule : Parser Expr := do
  if ← sees (.word .lambda) then g.lambda
  else
    let e ← g.disjunctionRule
    if ← accept (.word .if) then
      let test ← g.disjunction
      word .else
      return .conditional test e (← g.expression)
    else return e

end Grammar

end AnnotatedMarkdown.Python
