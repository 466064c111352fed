import AnnotatedMarkdown.Number.Binary64
import AnnotatedMarkdown.Text.CodePoint

/-!
# Abstract syntax of Python

Expressions, patterns and statements without source positions.  Parameters are
listed in source order with their kinds; the keywords of a call follow its
positional arguments.
-/

namespace AnnotatedMarkdown.Python

/-- The value of a literal.  `unicodeMark` records the prefix `u`. -/
inductive Constant where
  | none
  | true
  | false
  | ellipsis
  | string (value : Text) (unicodeMark : Bool)
  | bytes (value : List UInt8)
  | int (value : Nat)
  | float (value : Binary64)
  | imaginary (value : Binary64)
  deriving DecidableEq

inductive BooleanOp where
  | and
  | or
  deriving DecidableEq

inductive BinaryOp where
  | add | sub | mult | matMult | div | mod | pow | lShift | rShift | bitOr | bitXor | bitAnd
  | floorDiv
  deriving DecidableEq

inductive UnaryOp where
  | invert | not | plus | minus
  deriving DecidableEq

inductive CompareOp where
  | eq | notEq | lt | ltE | gt | gtE | is | isNot | in | notIn
  deriving DecidableEq

/-- The kinds of parameters, in the order in which they may stand. -/
inductive ParameterKind where
  | positionalOnly | regular | variadic | keywordOnly | variadicKeyword
  deriving DecidableEq

/-- The conversion of a replacement field. -/
inductive Conversion where
  | str | repr | ascii
  deriving DecidableEq

mutual

inductive Expr where
  | boolean (op : BooleanOp) (operands : List Expr)
  | named (target : String) (value : Expr)
  | binary (left : Expr) (op : BinaryOp) (right : Expr)
  | unary (op : UnaryOp) (operand : Expr)
  | lambda (parameters : List Parameter) (body : Expr)
  | conditional (test body orElse : Expr)
  | dict (items : List DictItem)
  | set (elements : List Expr)
  | listComp (element : Expr) (clauses : List Clause)
  | setComp (element : Expr) (clauses : List Clause)
  | dictComp (key value : Expr) (clauses : List Clause)
  | generator (element : Expr) (clauses : List Clause)
  | await (value : Expr)
  | yield (value : Option Expr)
  | yieldFrom (value : Expr)
  | compare (left : Expr) (rest : List Comparison)
  | call (function : Expr) (arguments : List Expr) (keywords : List Keyword)
  | formatted (value : Expr) (conversion : Option Conversion) (spec : Option Expr)
  | joined (parts : List Expr)
  | constant (value : Constant)
  | attribute (value : Expr) (name : String)
  | subscript (value index : Expr)
  | starred (value : Expr)
  | name (id : String)
  | list (elements : List Expr)
  | tuple (elements : List Expr)
  | slice (lower upper step : Option Expr)

/-- A parameter with its annotation and its default value. -/
inductive Parameter where
  | mk (kind : ParameterKind) (name : String) (hint fallback : Option Expr)

/-- A pair of a dictionary display, or a mapping unpacked into it. -/
inductive DictItem where
  | pair (key value : Expr)
  | unpack (value : Expr)

/-- A clause `for target in source` of a comprehension with its conditions. -/
inductive Clause where
  | mk (isAsync : Bool) (target source : Expr) (conditions : List Expr)

/-- An operator of a comparison chain and its right operand. -/
inductive Comparison where
  | mk (op : CompareOp) (operand : Expr)

/-- A keyword argument, or a mapping unpacked into keyword arguments. -/
inductive Keyword where
  | named (name : String) (value : Expr)
  | unpack (value : Expr)

end

instance : Inhabited Expr := ⟨.constant .none⟩

/-- Patterns of a `match` statement. -/
inductive Pattern where
  | value (value : Expr)
  | singleton (value : Constant)
  | sequence (patterns : List Pattern)
  | mapping (keys : List Expr) (patterns : List Pattern) (rest : Option String)
  | class (function : Expr) (patterns : List Pattern) (names : List String)
      (namedPatterns : List Pattern)
  | star (name : Option String)
  | capture (pattern : Option Pattern) (name : Option String)
  | alternatives (patterns : List Pattern)

/-- An imported name and the name it is bound to. -/
structure Alias where
  name : String
  boundAs : Option String
  deriving DecidableEq

/-- A context manager and its target. -/
structure WithItem where
  manager : Expr
  target : Option Expr

mutual

inductive Stmt where
  | functionDef (isAsync : Bool) (name : String) (parameters : List Parameter)
      (body : List Stmt) (decorators : List Expr) (result : Option Expr)
  | classDef (name : String) (bases : List Expr) (keywords : List Keyword)
      (body : List Stmt) (decorators : List Expr)
  | return (value : Option Expr)
  | delete (targets : List Expr)
  | assign (targets : List Expr) (value : Expr)
  | augAssign (target : Expr) (op : BinaryOp) (value : Expr)
  | annAssign (target hint : Expr) (value : Option Expr) (isSimple : Bool)
  | for (isAsync : Bool) (target source : Expr) (body orElse : List Stmt)
  | while (test : Expr) (body orElse : List Stmt)
  | if (test : Expr) (body orElse : List Stmt)
  | with (isAsync : Bool) (items : List WithItem) (body : List Stmt)
  | match (subject : Expr) (cases : List MatchCase)
  | raise (exception cause : Option Expr)
  | try (isGroup : Bool) (body : List Stmt) (handlers : List Handler)
      (orElse final : List Stmt)
  | assert (test : Expr) (message : Option Expr)
  | import (names : List Alias)
  | importFrom (module : Option String) (names : List Alias) (level : Nat)
  | global (names : List String)
  | nonlocal (names : List String)
  | expr (value : Expr)
  | pass
  | break
  | continue

/-- A case of a `match` statement. -/
inductive MatchCase where
  | mk (pattern : Pattern) (guard : Option Expr) (body : List Stmt)

/-- An `except` clause. -/
inductive Handler where
  | mk (type : Option Expr) (name : Option String) (body : List Stmt)

end

instance : Inhabited Stmt := ⟨.pass⟩

/-- The statements of a module. -/
abbrev Module := List Stmt

end AnnotatedMarkdown.Python
