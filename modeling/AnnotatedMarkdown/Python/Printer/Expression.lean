import AnnotatedMarkdown.Number.Shortest
import AnnotatedMarkdown.Python.Literal
import AnnotatedMarkdown.Python.Precedence
import AnnotatedMarkdown.Python.Printer.StringLiteral

/-!
# Printing expressions

`Expr.render` writes an expression with as few parentheses as its place allows.  It
yields nothing for an integer with too many decimal digits, and for a replacement
field whose expression could not be written without a backslash.
-/

namespace AnnotatedMarkdown.Python

/-! ## Constants -/

/-- A number that is not finite has no literal: an overflowing one stands for
infinity, and the difference of two for what is not a number. -/
def finiteText (isPointed : Bool) (x : Binary64) : Text :=
  match x with
  | .nan => "(1e309-1e309)"
  | .infinite negative => if negative then "-1e309" else "1e309"
  | x => .ofChars (x.toChars isPointed)

/-- The decimal digits of an integer, if they are not too many. -/
def integerText? (n : Nat) : Option Text :=
  let digits := Nat.toDigits 10 n
  if digits.length ≤ maxDecimalDigits then some (.ofChars digits) else none

/-- A constant; `plain` asks for a string literal with few escape sequences. -/
def Constant.render (plain : Bool) : Constant → Option Text
  | .none => some "None"
  | .true => some "True"
  | .false => some "False"
  | .ellipsis => some "..."
  | .string t unicodeMark =>
    some ((if unicodeMark then ([.scalar 'u'] : Text) else []) ++
      (if plain then QuoteStyle.literal t QuoteStyle.all else quoted t))
  | .bytes bs => some (quotedBytes bs)
  | .int n => integerText? n
  | .float x => some (finiteText Bool.true x)
  | .imaginary x => some (finiteText Bool.false x ++ [.scalar 'j'])

/-- Whether a dot after a constant needs a blank before it. -/
def Constant.needsBlank : Constant → Bool
  | .int _ => Bool.true
  | .true => Bool.true
  | .false => Bool.true
  | _ => Bool.false

/-! ## Layout -/

/-- Text in parentheses if a condition holds. -/
def parenthesize (condition : Bool) (t : Text) : Text :=
  if condition then .scalar '(' :: t ++ [.scalar ')'] else t

/-- Texts with a comma and a blank between them. -/
def commaSeparated (texts : List Text) : Text :=
  Text.join ", " texts

/-- The elements of a tuple; a single one has a comma after it. -/
def tupleElements (texts : List Text) : Text :=
  match texts with
  | [t] => t ++ [.scalar ',']
  | ts => commaSeparated ts

/-- The items of a parameter list: a slash follows the last positional parameter, and
a star comes before the first keyword one if no variadic one does. -/
def parameterTexts : (starred : Bool) → List (ParameterKind × Text) → List Text
  | _, [] => []
  | starred, (.positionalOnly, t) :: ps =>
    match ps with
    | (.positionalOnly, _) :: _ => t :: parameterTexts starred ps
    | _ => t :: ([.scalar '/'] : Text) :: parameterTexts starred ps
  | _, (.variadic, t) :: ps => (.scalar '*' :: t) :: parameterTexts true ps
  | starred, (.keywordOnly, t) :: ps =>
    if starred then t :: parameterTexts true ps
    else ([.scalar '*'] : Text) :: t :: parameterTexts true ps
  | starred, (.variadicKeyword, t) :: ps =>
    (.scalar '*' :: .scalar '*' :: t) :: parameterTexts starred ps
  | starred, (.regular, t) :: ps => t :: parameterTexts starred ps

/-- The mark of a conversion. -/
def Conversion.text : Conversion → Text
  | .str => "!s"
  | .repr => "!r"
  | .ascii => "!a"

/-- A text of a format string, in which braces are doubled. -/
def doubleBraces (t : Text) : Text :=
  t.flatMap fun c => if c = .scalar '{' || c = .scalar '}' then [c, c] else [c]

/-- The expression of a replacement field: a blank keeps an opening brace from being
doubled, and a backslash is not allowed. -/
def fieldExpression (t : Text) : Option Text :=
  if t.contains (.scalar '\\') then none
  else if t.head? = some (.scalar '{') then some (.scalar ' ' :: t)
  else some t

/-! ## Expressions -/

mutual

/-- An expression at a place of some precedence. -/
def Expr.render (plain : Bool) (place : Precedence) : Expr → Option Text
  | .boolean op operands => do
    let ts ← renderRising plain op.precedence.next operands
    return parenthesize (op.precedence < place)
      (Text.join (Text.concat [[.scalar ' '], op.text, [.scalar ' ']]) ts)
  | .named target value => do
    let v ← value.render plain .atom
    return parenthesize (.named < place) (Text.concat [target, " := ", v])
  | .binary left op right => do
    let p := op.precedence
    let (atLeft, atRight) := if op = .pow then (p.next, p) else (p, p.next)
    let l ← left.render plain atLeft
    let r ← right.render plain atRight
    return parenthesize (p < place) (Text.concat [l, " ", op.text, " ", r])
  | .unary op operand => do
    let t ← operand.render plain op.precedence
    return parenthesize (op.precedence < place) (op.text ++ t)
  | .lambda parameters body => do
    let ps ← renderParameters plain parameters
    let b ← body.render plain .test
    let list := commaSeparated (parameterTexts false ps)
    return parenthesize (.test < place)
      (Text.concat ["lambda", if list.isEmpty then [] else .scalar ' ' :: list, ": ", b])
  | .conditional test body orElse => do
    let b ← body.render plain Precedence.test.next
    let t ← test.render plain Precedence.test.next
    let e ← orElse.render plain .test
    return parenthesize (.test < place) (Text.concat [b, " if ", t, " else ", e])
  | .dict items => do
    let ts ← renderItems plain items
    return Text.concat ["\x7b", commaSeparated ts, "\x7d"]
  | .set elements => do
    let ts ← renderAll plain .test elements
    return if ts.isEmpty then "\x7b*()\x7d" else Text.concat ["\x7b", commaSeparated ts, "\x7d"]
  | .listComp element clauses => do
    let e ← element.render plain .test
    let cs ← renderClauses plain clauses
    return Text.concat ["[", e, cs, "]"]
  | .setComp element clauses => do
    let e ← element.render plain .test
    let cs ← renderClauses plain clauses
    return Text.concat ["\x7b", e, cs, "\x7d"]
  | .dictComp key value clauses => do
    let k ← key.render plain .test
    let v ← value.render plain .test
    let cs ← renderClauses plain clauses
    return Text.concat ["\x7b", k, ": ", v, cs, "\x7d"]
  | .generator element clauses => do
    let e ← element.render plain .test
    let cs ← renderClauses plain clauses
    return Text.concat ["(", e, cs, ")"]
  | .await value => do
    let v ← value.render plain .atom
    return parenthesize (.await < place) (Text.concat ["await ", v])
  | .yield none => return parenthesize (.yield < place) "yield"
  | .yield (some value) => do
    let v ← value.render plain .atom
    return parenthesize (.yield < place) (Text.concat ["yield ", v])
  | .yieldFrom value => do
    let v ← value.render plain .atom
    return parenthesize (.yield < place) (Text.concat ["yield from ", v])
  | .compare left rest => do
    let l ← left.render plain Precedence.compare.next
    let r ← renderComparisons plain rest
    return parenthesize (.compare < place) (l ++ r)
  | .call function arguments keywords => do
    let f ← function.render plain .atom
    let es ← renderAll plain .test arguments
    let ks ← renderKeywords plain keywords
    return Text.concat [f, "(", commaSeparated (es ++ ks), ")"]
  | .formatted value conversion spec => do
    let v ← (← value.render true Precedence.test.next) |> fieldExpression
    let s ← renderSpec spec
    let field := Text.concat
      ["\x7b", v, (conversion.map Conversion.text).getD [], s, "\x7d"]
    return .scalar 'f' :: QuoteStyle.literal field QuoteStyle.all
  | .joined parts => do
    let chunks ← renderChunks parts
    if plain then
      return .scalar 'f' ::
        QuoteStyle.literal (Text.concat (chunks.map Prod.fst)) QuoteStyle.all
    else return .scalar 'f' :: QuoteStyle.formatLiteral chunks
  | .constant c => c.render plain
  | .attribute value id => do
    let v ← value.render plain .atom
    let blank : Text :=
      match value with
      | .constant c => if c.needsBlank then [.scalar ' '] else []
      | _ => []
    return Text.concat [v, blank, ".", id]
  | .subscript value (.tuple (e :: es)) => do
    let v ← value.render plain .atom
    let t ← e.render plain .test
    let ts ← renderAll plain .test es
    return Text.concat [v, "[", tupleElements (t :: ts), "]"]
  | .subscript value index => do
    let v ← value.render plain .atom
    let i ← index.render plain .test
    return Text.concat [v, "[", i, "]"]
  | .starred value => do
    let v ← value.render plain .bitOr
    return .scalar '*' :: v
  | .name id => some id
  | .list elements => do
    let ts ← renderAll plain .test elements
    return Text.concat ["[", commaSeparated ts, "]"]
  | .tuple elements => do
    let ts ← renderAll plain .test elements
    return parenthesize (ts.isEmpty || .tuple < place) (tupleElements ts)
  | .slice lower upper step => do
    let l ← renderOption plain lower
    let u ← renderOption plain upper
    let s ← renderOption plain step
    return Text.concat
      [l.getD [], ":", u.getD [], (s.map fun t => .scalar ':' :: t).getD []]

/-- Expressions at places of one precedence. -/
def renderAll (plain : Bool) (place : Precedence) : List Expr → Option (List Text)
  | [] => some []
  | e :: es => do
    let t ← e.render plain place
    let ts ← renderAll plain place es
    return t :: ts

/-- Operands at places of rising precedence. -/
def renderRising (plain : Bool) (place : Precedence) : List Expr → Option (List Text)
  | [] => some []
  | e :: es => do
    let t ← e.render plain place
    let ts ← renderRising plain place.next es
    return t :: ts

/-- An expression that may be missing. -/
def renderOption (plain : Bool) : Option Expr → Option (Option Text)
  | none => some none
  | some e => do
    let t ← e.render plain .test
    return some t

/-- A parameter without its stars. -/
def Parameter.render (plain : Bool) : Parameter → Option (ParameterKind × Text)
  | .mk kind id hint fallback => do
    let h ← renderOption plain hint
    let f ← renderOption plain fallback
    return (kind, Text.concat
      [id, (h.map fun t => Text.concat [": ", t]).getD [],
        (f.map fun t => .scalar '=' :: t).getD []])

/-- Parameters without their stars. -/
def renderParameters (plain : Bool) : List Parameter → Option (List (ParameterKind × Text))
  | [] => some []
  | p :: ps => do
    let t ← p.render plain
    let ts ← renderParameters plain ps
    return t :: ts

/-- An item of a dictionary display. -/
def DictItem.render (plain : Bool) : DictItem → Option Text
  | .pair key value => do
    let k ← key.render plain .test
    let v ← value.render plain .test
    return Text.concat [k, ": ", v]
  | .unpack value => do
    let v ← value.render plain .bitOr
    return Text.concat ["**", v]

/-- Items of a dictionary display. -/
def renderItems (plain : Bool) : List DictItem → Option (List Text)
  | [] => some []
  | i :: is => do
    let t ← i.render plain
    let ts ← renderItems plain is
    return t :: ts

/-- A clause of a comprehension with a blank in front of it. -/
def Clause.render (plain : Bool) : Clause → Option Text
  | .mk isAsync target source conditions => do
    let t ← target.render plain .tuple
    let s ← source.render plain Precedence.test.next
    let cs ← renderAll plain Precedence.test.next conditions
    return Text.concat
      [if isAsync then " async for " else " for ", t, " in ", s,
        cs.flatMap fun c => Text.concat [" if ", c]]

/-- Clauses of a comprehension. -/
def renderClauses (plain : Bool) : List Clause → Option Text
  | [] => some []
  | c :: cs => do
    let t ← c.render plain
    let ts ← renderClauses plain cs
    return t ++ ts

/-- An operator and its right operand. -/
def Comparison.render (plain : Bool) : Comparison → Option Text
  | .mk op operand => do
    let t ← operand.render plain Precedence.compare.next
    return Text.concat [" ", op.text, " ", t]

/-- The operators and operands of a comparison. -/
def renderComparisons (plain : Bool) : List Comparison → Option Text
  | [] => some []
  | c :: cs => do
    let t ← c.render plain
    let ts ← renderComparisons plain cs
    return t ++ ts

/-- A keyword argument. -/
def Keyword.render (plain : Bool) : Keyword → Option Text
  | .named id value => do
    let v ← value.render plain .test
    return Text.concat [id, "=", v]
  | .unpack value => do
    let v ← value.render plain .test
    return Text.concat ["**", v]

/-- Keyword arguments. -/
def renderKeywords (plain : Bool) : List Keyword → Option (List Text)
  | [] => some []
  | k :: ks => do
    let t ← k.render plain
    let ts ← renderKeywords plain ks
    return t :: ts

/-- A part of a format string. -/
def Expr.renderChunk : Expr → Option Text
  | .constant (.string t _) => some (doubleBraces t)
  | .formatted value conversion spec => do
    let v ← (← value.render true Precedence.test.next) |> fieldExpression
    let s ← renderSpec spec
    return Text.concat ["\x7b", v, (conversion.map Conversion.text).getD [], s, "\x7d"]
  | _ => none

/-- The parts of a format string; the flag tells that a part is a text. -/
def renderChunks : List Expr → Option (List (Text × Bool))
  | [] => some []
  | e :: es => do
    let t ← e.renderChunk
    let ts ← renderChunks es
    let isText :=
      match e with
      | .constant _ => true
      | _ => false
    return (t, isText) :: ts

/-- The specification of a replacement field with its colon. -/
def renderSpec : Option Expr → Option Text
  | none => some []
  | some (.joined parts) => do
    let ts ← renderChunks parts
    return .scalar ':' :: Text.concat (ts.map Prod.fst)
  | some _ => none

end

end AnnotatedMarkdown.Python
