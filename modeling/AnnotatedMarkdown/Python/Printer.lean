import AnnotatedMarkdown.Python.Printer.Expression

/-!
# Printing patterns and statements

Every statement starts with a line break and the indentation of its block, and a
definition with one more line break.  `printModule` and `printStatement` take the
leading line breaks away again.
-/

namespace AnnotatedMarkdown.Python

/-! ## Patterns -/

/-- The name of a star pattern. -/
def starName (name : Option String) : Text :=
  (name.map Text.ofString).getD "_"

mutual

/-- A pattern at a place of some precedence. -/
def Pattern.render (place : Precedence) : Pattern → Option Text
  | .value e => e.render false .test
  | .singleton c => c.render false
  | .sequence patterns => do
    let ts ← renderPatterns .test patterns
    return Text.concat ["[", commaSeparated ts, "]"]
  | .mapping keys patterns rest => do
    let ks ← renderAll false .test keys
    let ps ← renderPatterns .test patterns
    let items := (ks.zip ps).map fun (k, p) => Text.concat [k, ": ", p]
    let last := rest.map fun id => Text.concat ["**", id]
    return Text.concat ["\x7b", commaSeparated (items ++ last.toList), "\x7d"]
  | .class function patterns names namedPatterns => do
    let f ← function.render false .atom
    let ps ← renderPatterns .test patterns
    let ns ← renderPatterns .test namedPatterns
    let named := (names.zip ns).map fun (id, p) => Text.concat [id, "=", p]
    return Text.concat [f, "(", commaSeparated (ps ++ named), ")"]
  | .star name => some (.scalar '*' :: starName name)
  | .capture none name => some (starName name)
  | .capture (some _) none => some "_"
  | .capture (some pattern) (some name) => do
    let p ← pattern.render .bitOr
    return parenthesize (.test < place) (Text.concat [p, " as ", name])
  | .alternatives patterns => do
    let ts ← renderPatterns Precedence.bitOr.next patterns
    return parenthesize (.bitOr < place) (Text.join " | " ts)

/-- Patterns at places of one precedence. -/
def renderPatterns (place : Precedence) : List Pattern → Option (List Text)
  | [] => some []
  | p :: ps => do
    let t ← p.render place
    let ts ← renderPatterns place ps
    return t :: ts

end

/-! ## Lines -/

/-- A line break and the indentation of a depth. -/
def lineBreak (depth : Nat) : Text :=
  .scalar '\n' :: List.replicate (4 * depth) (.scalar ' ')

/-- A line of a depth. -/
def line (depth : Nat) (pieces : List Text) : Text :=
  lineBreak depth ++ Text.concat pieces

/-- An expression after a word, if there is one. -/
def afterWord (word : Text) (e : Option Text) : Text :=
  (e.map fun t => word ++ t).getD []

/-- An imported name with its alias. -/
def Alias.text (a : Alias) : Text :=
  Text.concat [a.name, afterWord " as " (a.boundAs.map Text.ofString)]

/-- A context manager with its target. -/
def WithItem.render (item : WithItem) : Option Text := do
  let m ← item.manager.render false .test
  let t ← renderOption false item.target
  return Text.concat [m, afterWord " as " t]

/-- Decorators, each on a line. -/
def renderDecorators (depth : Nat) : List Expr → Option Text
  | [] => some []
  | e :: es => do
    let t ← e.render false .test
    let ts ← renderDecorators depth es
    return line depth ["@", t] ++ ts

/-- Targets, each with an equals sign after it. -/
def renderTargets : List Expr → Option Text
  | [] => some []
  | e :: es => do
    let t ← e.render false .tuple
    let ts ← renderTargets es
    return Text.concat [t, " = ", ts]

/-- A docstring. -/
def docstring (depth : Nat) (t : Text) (unicodeMark : Bool) : Text :=
  line depth [if unicodeMark then "u" else [], QuoteStyle.literal t QuoteStyle.long]

/-! ## Statements -/

mutual

/-- A statement with the line breaks in front of it. -/
def Stmt.render (depth : Nat) : Stmt → Option Text
  | .functionDef isAsync name parameters body decorators result => do
    let ds ← renderDecorators depth decorators
    let ps ← renderParameters false parameters
    let r ← renderOption false result
    let b ← renderBody (depth + 1) body
    return Text.concat
      ["\n", ds, line depth
        [if isAsync then "async def " else "def ", name, "(",
          commaSeparated (parameterTexts false ps), ")", afterWord " -> " r, ":"], b]
  | .classDef name bases keywords body decorators => do
    let ds ← renderDecorators depth decorators
    let es ← renderAll false .test bases
    let ks ← renderKeywords false keywords
    let b ← renderBody (depth + 1) body
    let arguments := parenthesize (!bases.isEmpty || !keywords.isEmpty) (commaSeparated (es ++ ks))
    return Text.concat ["\n", ds, line depth ["class ", name, arguments, ":"], b]
  | .return value => do
    let v ← renderOption false value
    return line depth ["return", afterWord " " v]
  | .delete targets => do
    let ts ← renderAll false .test targets
    return line depth ["del ", commaSeparated ts]
  | .assign targets value => do
    let ts ← renderTargets targets
    let v ← value.render false .test
    return line depth [ts, v]
  | .augAssign target op value => do
    let t ← target.render false .test
    let v ← value.render false .test
    return line depth [t, " ", op.text, "= ", v]
  | .annAssign target hint value isSimple => do
    let t ← target.render false .test
    let h ← hint.render false .test
    let v ← renderOption false value
    let isName :=
      match target with
      | .name _ => true
      | _ => false
    return line depth [parenthesize (!isSimple && isName) t, ": ", h, afterWord " = " v]
  | .for isAsync target source body orElse => do
    let t ← target.render false .tuple
    let s ← source.render false .test
    let b ← renderAllStatements (depth + 1) body
    let e ← renderSuite depth "else:" orElse
    return Text.concat
      [line depth [if isAsync then "async for " else "for ", t, " in ", s, ":"], b, e]
  | .while test body orElse => do
    let t ← test.render false .test
    let b ← renderAllStatements (depth + 1) body
    let e ← renderSuite depth "else:" orElse
    return Text.concat [line depth ["while ", t, ":"], b, e]
  | .if test body orElse => do
    let t ← test.render false .test
    let b ← renderAllStatements (depth + 1) body
    let e ← renderElse depth orElse
    return Text.concat [line depth ["if ", t, ":"], b, e]
  | .with isAsync items body => do
    let ts ← items.mapM WithItem.render
    let b ← renderAllStatements (depth + 1) body
    return Text.concat
      [line depth [if isAsync then "async with " else "with ", commaSeparated ts, ":"], b]
  | .match subject cases => do
    let s ← subject.render false .test
    let cs ← renderCases (depth + 1) cases
    return Text.concat [line depth ["match ", s, ":"], cs]
  | .raise exception cause => do
    let e ← renderOption false exception
    let c ← renderOption false cause
    return line depth ["raise", afterWord " " e, afterWord " from " c]
  | .try isGroup body handlers orElse final => do
    let b ← renderAllStatements (depth + 1) body
    let hs ← renderHandlers depth isGroup handlers
    let e ← renderSuite depth "else:" orElse
    let f ← renderSuite depth "finally:" final
    return Text.concat [line depth ["try:"], b, hs, e, f]
  | .assert test message => do
    let t ← test.render false .test
    let m ← renderOption false message
    return line depth ["assert ", t, afterWord ", " m]
  | .import names =>
    some (line depth ["import ", commaSeparated (names.map Alias.text)])
  | .importFrom module names level =>
    some (line depth
      ["from ", List.replicate level (.scalar '.'), (module.map Text.ofString).getD [],
        " import ", commaSeparated (names.map Alias.text)])
  | .global names =>
    some (line depth ["global ", commaSeparated (names.map Text.ofString)])
  | .nonlocal names =>
    some (line depth ["nonlocal ", commaSeparated (names.map Text.ofString)])
  | .expr value => do
    let v ← value.render false .yield
    return line depth [v]
  | .pass => some (line depth ["pass"])
  | .break => some (line depth ["break"])
  | .continue => some (line depth ["continue"])

/-- Statements one after the other. -/
def renderAllStatements (depth : Nat) : List Stmt → Option Text
  | [] => some []
  | s :: ss => do
    let t ← s.render depth
    let ts ← renderAllStatements depth ss
    return t ++ ts

/-- The body of a definition: a string in front is a docstring. -/
def renderBody (depth : Nat) : List Stmt → Option Text
  | [] => some []
  | s :: ss => do
    let t ←
      match s with
      | .expr (.constant (.string doc unicodeMark)) => some (docstring depth doc unicodeMark)
      | s => s.render depth
    let ts ← renderAllStatements depth ss
    return t ++ ts

/-- A head line and a block below it; nothing for an empty block. -/
def renderSuite (depth : Nat) (head : Text) : List Stmt → Option Text
  | [] => some []
  | s :: ss => do
    let t ← s.render (depth + 1)
    let ts ← renderAllStatements (depth + 1) ss
    return Text.concat [line depth [head], t, ts]

/-- The block after the test of a conditional statement fails: a conditional statement
of its own joins the chain. -/
def renderElse (depth : Nat) : List Stmt → Option Text
  | [] => some []
  | [.if test body orElse] => do
    let t ← test.render false .test
    let b ← renderAllStatements (depth + 1) body
    let e ← renderElse depth orElse
    return Text.concat [line depth ["elif ", t, ":"], b, e]
  | s :: ss => do
    let t ← s.render (depth + 1)
    let ts ← renderAllStatements (depth + 1) ss
    return Text.concat [line depth ["else:"], t, ts]

/-- A case of a `match` statement. -/
def MatchCase.render (depth : Nat) : MatchCase → Option Text
  | .mk pattern guard body => do
    let p ← pattern.render .test
    let g ← renderOption false guard
    let b ← renderAllStatements (depth + 1) body
    return Text.concat [line depth ["case ", p, afterWord " if " g, ":"], b]

/-- The cases of a `match` statement. -/
def renderCases (depth : Nat) : List MatchCase → Option Text
  | [] => some []
  | c :: cs => do
    let t ← c.render depth
    let ts ← renderCases depth cs
    return t ++ ts

/-- An `except` clause. -/
def Handler.render (depth : Nat) (isGroup : Bool) : Handler → Option Text
  | .mk type name body => do
    let t ← renderOption false type
    let b ← renderAllStatements (depth + 1) body
    return Text.concat
      [line depth
        [if isGroup then "except*" else "except", afterWord " " t,
          afterWord " as " (name.map Text.ofString), ":"], b]

/-- The `except` clauses of a statement. -/
def renderHandlers (depth : Nat) (isGroup : Bool) : List Handler → Option Text
  | [] => some []
  | h :: hs => do
    let t ← h.render depth isGroup
    let ts ← renderHandlers depth isGroup hs
    return t ++ ts

end

/-! ## Whole texts -/

/-- A text without its leading line breaks. -/
def dropLineBreaks (t : Text) : Text :=
  t.dropWhile fun c => decide (c = .scalar '\n')

/-- A statement as a text of its own. -/
def printStatement (s : Stmt) : Option Text :=
  (s.render 0).map dropLineBreaks

/-- An expression as a text of its own. -/
def printExpression (e : Expr) : Option Text :=
  e.render false .test

/-- A module: a string in front is a docstring. -/
def printModule (m : Module) : Option Text :=
  (renderBody 0 m).map dropLineBreaks

end AnnotatedMarkdown.Python
