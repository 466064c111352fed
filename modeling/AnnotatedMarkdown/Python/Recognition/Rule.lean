import AnnotatedMarkdown.Python.Recognition.Node
import AnnotatedMarkdown.Python.Token

/-!
# Rules of a grammar

A grammar gives a definition to every rule: alternatives that are tried in order,
each a list of items with an action on what they matched.  The first alternative
that matches is taken.  Some rules only diagnose faults: their alternatives match
ungrammatical text, and their actions name the line of the fault.
-/

namespace AnnotatedMarkdown.Python.Recognition

/-! ## The rules -/

/-- The rules of expressions and targets. -/
inductive ExpressionRule where
  | expressions | expression | undiagnosedExpression | yieldExpression
  | starExpressions | starExpression | starNamedExpressions | starNamedExpression
  | assignmentExpression | namedExpression | disjunction | conjunction | inversion
  | comparison | comparisonPair | bitwiseOr | bitwiseXor | bitwiseAnd | shift | sum | term
  | factor | power | awaitPrimary | primary | slices | slice | atom | strings | group
  | lambda | list | tuple | set | dict | pairs | pairOrUnpacking | pair
  | listComprehension | setComprehension | generator | dictComprehension
  | clauses | clause | arguments | argumentList | keywordArguments
  | keywordOrStarred | keywordOrDoubleStarred | starredExpression
  | starTargets | starTargetsOfList | starTargetsOfTuple | starTarget | targetWithStarAtom
  | starAtom | singleTarget | singlePlace | targetPrimary | targetContinues
  | deletedTargets | deletedTarget | deletedAtom
  | faultyArguments | faultyKeyword | faultyCall | faultyExpression | faultyNamedExpression
  | faultyComprehension | faultyDictComprehension | faultyGroup | faultyPairs | faultyPair
  | faultyLoopTarget
  deriving DecidableEq, Hashable

/-- The rules of parameter lists. -/
inductive ParameterRule where
  | signature | parameters | slashNoDefault | slashWithDefault | starPart | keywordPart
  | noDefault | noDefaultStarAnnotated | withDefault | maybeDefault
  | parameter | starAnnotated | default
  | faultySignature | defaultsInFront | faultyDefault | faultyStarPart | faultyKeywordPart
  deriving DecidableEq, Hashable

/-- The rules of patterns. -/
inductive PatternRule where
  | patterns | pattern | asPattern | orPattern | closedPattern | literalPattern
  | literalExpression | complexNumber | signedNumber | signedRealNumber | realNumber
  | imaginaryNumber | capturePattern | captureTarget | wildcardPattern | valuePattern
  | attribute | nameOrAttribute | groupPattern | sequencePattern | openSequencePattern
  | maybeSequencePattern | maybeStarPattern | starPattern | mappingPattern | itemsPattern
  | keyValuePattern | doubleStarPattern | classPattern | positionalPatterns
  | keywordPatterns | keywordPattern
  | faultyAsPattern | faultyClassPattern | misplacedPositionals
  deriving DecidableEq, Hashable

/-- The rules of statements. -/
inductive StatementRule where
  | file | embedded | statements | statement | simpleStatements | simpleStatement
  | compoundStatement | assignment | annotatedValue | augmentedOperator | returnStatement
  | raiseStatement | globalStatement | nonlocalStatement | deleteStatement | assertStatement
  | importStatement | importName | importFrom | importTargets | importedNames | importedName
  | dottedAsNames | dottedAsName | dottedName | block | decorators | classDefinition
  | bareClass | functionDefinition | bareFunction | functionTypeComment | ifStatement
  | elifStatement | elseBlock | whileStatement | forStatement | withStatement | withItem
  | tryStatement | exceptBlock | exceptStarBlock | finallyBlock | matchStatement | subject
  | caseBlock | guard
  | faultyAssignment | faultyAnnotationTarget | faultyDelete | faultyBlock | faultyClass
  | faultyFunction | faultyIf | faultyElif | faultyElse | faultyWhile | faultyFor | faultyWith
  | faultyWithIndent | faultyWithItem | faultyTry | faultyExcept | faultyExceptIndent
  | faultyExceptStarIndent | faultyFinally | faultyMatch | faultyCase | faultyImportTargets
  deriving DecidableEq, Hashable

/-- The rules of the grammar.  Those of parameter lists exist once for functions and
once for `lambda`. -/
inductive Rule where
  | expression (r : ExpressionRule)
  | parameter (isLambda : Bool) (r : ParameterRule)
  | pattern (r : PatternRule)
  | statement (r : StatementRule)
  deriving DecidableEq, Hashable

/-! ## Items -/

/-- What a single token can be required to be. -/
inductive Terminal where
  | lexeme (x : Lexeme)
  | name
  | number
  | string
  | soft (spelling : List Char)
  | anySoft
  | typeComment

/-- The names that are reserved in some places only. -/
def softWords : List (List Char) :=
  [['_'], ['c', 'a', 's', 'e'], ['m', 'a', 't', 'c', 'h']]

/-- What a terminal makes of a token.  Comments are not tokens, so that none is a type
comment. -/
def Terminal.node? (t : Terminal) (token : Token) : Option Node :=
  match t, token.lexeme with
  | .lexeme x, y => if x = y then some (.plain token.line) else none
  | .name, .name spelling => some (.name token.line spelling)
  | .number, .number spelling => some (.number token.line spelling)
  | .string, .string spelling => some (.string token.line spelling)
  | .soft word, .name spelling =>
    if word = spelling then some (.name token.line spelling) else none
  | .anySoft, .name spelling =>
    if softWords.contains spelling then some (.name token.line spelling) else none
  | _, _ => none

/-- A part of an alternative.  After a `cut` no other alternative is tried, and a
`forced` lexeme is a fault where it is missing. -/
inductive Item where
  | terminal (t : Terminal)
  | rule (r : Rule)
  | forced (x : Lexeme)
  | optional (item : Item)
  | many (item : Item)
  | many1 (item : Item)
  | separated (separator : Lexeme) (item : Item)
  | ahead (wanted : Bool) (item : Item)
  | group (alternatives : List (List Item))
  | cut

/-! ## Actions -/

/-- What is known where an alternative has matched: the version of the grammar, the
diagnosis of expressions embedded in string literals, the line of the first token,
the number of brackets that are open after the last token, and what the items
matched. -/
structure Match where
  version : Nat
  embedded : (line : Nat) → List Char → Option Nat
  line : Nat
  depth : Nat
  values : List Node

/-- The value of an item. -/
def Match.value (m : Match) (i : Nat) : Node :=
  m.values.getD i .nothing

/-- Where a fault is: on a line, or on that of the last token that has been read. -/
inductive Site where
  | line (n : Nat)
  | lastToken

/-- What an action makes of a match: a constituent, a fault, or a refusal of the rule
with all its alternatives. -/
inductive Verdict where
  | value (n : Node)
  | refused
  | fault (site : Site)

/-- What becomes of a match. -/
abbrev Action := Match → Verdict

/-- A constituent of no further interest. -/
def plainly : Action := fun m => .value (.plain m.line)

/-- The value of an item. -/
def pick (i : Nat) : Action := fun m => .value (m.value i)

/-- A constituent made from the match. -/
def make (f : Match → Node) : Action := fun m => .value (f m)

/-- A fault at the last token that has been read. -/
def faultAtEnd : Action := fun _ => .fault .lastToken

/-- A fault at an item. -/
def faultAt (i : Nat) : Action := fun m => .fault (.line (m.value i).line)

/-- A fault at the part of an item that cannot be a target. -/
def faultyTarget (u : TargetUse) (i : Nat) : Action := fun m =>
  match (m.value i).invalidTarget? u with
  | some part => .fault (.line part.line)
  | none => .refused

/-- An action on a construct that came with a version. -/
def since (version : Nat) : Action := fun m =>
  if m.version < version then .fault .lastToken else plainly m

/-! ## Definitions -/

/-- Items in sequence with their action; a diagnosis is tried only when a fault is
looked for. -/
structure Alternative where
  items : List Item
  action : Action
  isDiagnosis : Bool

/-- The way in which a rule is applied: its results may be remembered, it may start
with itself, and it may suspend the search for faults. -/
inductive Mode where
  | direct
  | remembered
  | leftRecursive
  | undiagnosed

/-- The definition of a rule. -/
structure Definition where
  mode : Mode
  alternatives : List Alternative

/-- A rule that is applied afresh each time. -/
def direct (alternatives : List Alternative) : Definition := ⟨.direct, alternatives⟩

/-- A rule whose results are remembered. -/
def remembered (alternatives : List Alternative) : Definition := ⟨.remembered, alternatives⟩

/-- A rule that may start with itself. -/
def leftRecursive (alternatives : List Alternative) : Definition := ⟨.leftRecursive, alternatives⟩

/-- The value of another rule. -/
def same (r : Rule) : Alternative := ⟨[.rule r], pick 0, false⟩

/-- A search for a fault. -/
def diagnosis (r : Rule) : Alternative := ⟨[.rule r], pick 0, true⟩

/-- Items with an action. -/
def alt (items : List Item) (action : Action) : Alternative := ⟨items, action, false⟩

/-- Items that make a constituent of no further interest. -/
def items (items : List Item) : Alternative := ⟨items, plainly, false⟩

/-! ## Short forms of items -/

/-- A rule of expressions. -/
def expr (r : ExpressionRule) : Item := .rule (.expression r)

/-- A rule of patterns. -/
def pat (r : PatternRule) : Item := .rule (.pattern r)

/-- A rule of statements. -/
def stmt (r : StatementRule) : Item := .rule (.statement r)

/-- An operator. -/
def op (o : Op) : Item := .terminal (.lexeme (.op o))

/-- A reserved word. -/
def word (w : Word) : Item := .terminal (.lexeme (.word w))

/-- A lexeme. -/
def lexeme (x : Lexeme) : Item := .terminal (.lexeme x)

/-- A name. -/
def name : Item := .terminal .name

/-- The word `match` in front of its subject. -/
def matchWord : Item := .terminal (.soft ['m', 'a', 't', 'c', 'h'])

/-- The word `case` in front of its pattern. -/
def caseWord : Item := .terminal (.soft ['c', 'a', 's', 'e'])

/-- A low line as a name. -/
def lowLine : Item := .terminal (.soft ['_'])

/-- A type comment. -/
def typeComment : Item := .terminal .typeComment

/-- Items that may be missing. -/
def maybe (items : List Item) : Item := .optional (.group [items])

/-- One of several items. -/
def oneOf (items : List Item) : Item := .group (items.map fun i => [i])

/-- An item must follow. -/
def followedBy (item : Item) : Item := .ahead true item

/-- An item must not follow. -/
def notFollowedBy (item : Item) : Item := .ahead false item

/-- Items with commas between them. -/
def commas (item : Item) : Item := .separated (.op .comma) item

/-- A comma that may be missing. -/
def maybeComma : Item := .optional (op .comma)

end AnnotatedMarkdown.Python.Recognition
