/-!
# Tokens of Python source

The reserved words, the operators and delimiters, and the tokens that the lexical
analysis of a source text yields.  `Word.ofChars?` and `Op.ofChars?` read a word
and an operator from their spellings.
-/

namespace AnnotatedMarkdown.Python

/-- The reserved words. -/
inductive Word where
  | false | none | true | and | as | assert | async | await | break | klass | continue | define
  | del | elif | else | except | finally | for | from | global | if | import | in | is | lambda
  | nonlocal | not | or | pass | raise | return | try | while | with | yield
  deriving DecidableEq

/-- The spelling of a reserved word. -/
def Word.chars : Word → List Char
  | .false => ['F', 'a', 'l', 's', 'e']
  | .none => ['N', 'o', 'n', 'e']
  | .true => ['T', 'r', 'u', 'e']
  | .and => ['a', 'n', 'd']
  | .as => ['a', 's']
  | .assert => ['a', 's', 's', 'e', 'r', 't']
  | .async => ['a', 's', 'y', 'n', 'c']
  | .await => ['a', 'w', 'a', 'i', 't']
  | .break => ['b', 'r', 'e', 'a', 'k']
  | .klass => ['c', 'l', 'a', 's', 's']
  | .continue => ['c', 'o', 'n', 't', 'i', 'n', 'u', 'e']
  | .define => ['d', 'e', 'f']
  | .del => ['d', 'e', 'l']
  | .elif => ['e', 'l', 'i', 'f']
  | .else => ['e', 'l', 's', 'e']
  | .except => ['e', 'x', 'c', 'e', 'p', 't']
  | .finally => ['f', 'i', 'n', 'a', 'l', 'l', 'y']
  | .for => ['f', 'o', 'r']
  | .from => ['f', 'r', 'o', 'm']
  | .global => ['g', 'l', 'o', 'b', 'a', 'l']
  | .if => ['i', 'f']
  | .import => ['i', 'm', 'p', 'o', 'r', 't']
  | .in => ['i', 'n']
  | .is => ['i', 's']
  | .lambda => ['l', 'a', 'm', 'b', 'd', 'a']
  | .nonlocal => ['n', 'o', 'n', 'l', 'o', 'c', 'a', 'l']
  | .not => ['n', 'o', 't']
  | .or => ['o', 'r']
  | .pass => ['p', 'a', 's', 's']
  | .raise => ['r', 'a', 'i', 's', 'e']
  | .return => ['r', 'e', 't', 'u', 'r', 'n']
  | .try => ['t', 'r', 'y']
  | .while => ['w', 'h', 'i', 'l', 'e']
  | .with => ['w', 'i', 't', 'h']
  | .yield => ['y', 'i', 'e', 'l', 'd']

/-- All reserved words. -/
def Word.all : List Word :=
  [.false, .none, .true, .and, .as, .assert, .async, .await, .break, .klass, .continue, .define,
    .del, .elif, .else, .except, .finally, .for, .from, .global, .if, .import, .in, .is,
    .lambda, .nonlocal, .not, .or, .pass, .raise, .return, .try, .while, .with, .yield]

/-- The reserved word with a given spelling. -/
def Word.ofChars? (cs : List Char) : Option Word :=
  Word.all.find? fun w => w.chars == cs

/-- Operators and delimiters; `other` is a printable character that is neither. -/
inductive Op where
  | lPar | rPar | lSqb | rSqb | lBrace | rBrace | colon | comma | semi | dot | ellipsis | arrow
  | plus | minus | star | slash | percent | at | doubleStar | doubleSlash | leftShift | rightShift
  | vBar | amper | circumflex | tilde
  | less | greater | eqEqual | notEqual | lessEqual | greaterEqual | lessGreater
  | equal | colonEqual | plusEqual | minusEqual | starEqual | slashEqual | percentEqual | atEqual
  | doubleStarEqual | doubleSlashEqual | leftShiftEqual | rightShiftEqual
  | vBarEqual | amperEqual | circumflexEqual
  | other
  deriving DecidableEq

/-- The operator of three characters. -/
def Op.ofThree? : Char → Char → Char → Option Op
  | '.', '.', '.' => some .ellipsis
  | '*', '*', '=' => some .doubleStarEqual
  | '/', '/', '=' => some .doubleSlashEqual
  | '<', '<', '=' => some .leftShiftEqual
  | '>', '>', '=' => some .rightShiftEqual
  | _, _, _ => none

/-- The operator of two characters. -/
def Op.ofTwo? : Char → Char → Option Op
  | '!', '=' => some .notEqual
  | '%', '=' => some .percentEqual
  | '&', '=' => some .amperEqual
  | '*', '*' => some .doubleStar
  | '*', '=' => some .starEqual
  | '+', '=' => some .plusEqual
  | '-', '=' => some .minusEqual
  | '-', '>' => some .arrow
  | '/', '/' => some .doubleSlash
  | '/', '=' => some .slashEqual
  | ':', '=' => some .colonEqual
  | '<', '<' => some .leftShift
  | '<', '=' => some .lessEqual
  | '<', '>' => some .lessGreater
  | '=', '=' => some .eqEqual
  | '>', '=' => some .greaterEqual
  | '>', '>' => some .rightShift
  | '@', '=' => some .atEqual
  | '^', '=' => some .circumflexEqual
  | '|', '=' => some .vBarEqual
  | _, _ => none

/-- The operator of one character. -/
def Op.ofOne : Char → Op
  | '(' => .lPar
  | ')' => .rPar
  | '[' => .lSqb
  | ']' => .rSqb
  | '{' => .lBrace
  | '}' => .rBrace
  | ':' => .colon
  | ',' => .comma
  | ';' => .semi
  | '.' => .dot
  | '+' => .plus
  | '-' => .minus
  | '*' => .star
  | '/' => .slash
  | '%' => .percent
  | '@' => .at
  | '|' => .vBar
  | '&' => .amper
  | '^' => .circumflex
  | '~' => .tilde
  | '<' => .less
  | '>' => .greater
  | '=' => .equal
  | _ => .other

/-- The longest operator at the front of a text, and what follows it. -/
def Op.longest? : List Char → Option (Op × List Char)
  | a :: b :: c :: cs =>
    match Op.ofThree? a b c with
    | some op => some (op, cs)
    | none =>
      match Op.ofTwo? a b with
      | some op => some (op, c :: cs)
      | none => some (Op.ofOne a, b :: c :: cs)
  | [a, b] =>
    match Op.ofTwo? a b with
    | some op => some (op, [])
    | none => some (Op.ofOne a, [b])
  | [a] => some (Op.ofOne a, [])
  | [] => none

/-- What a token is.  Names, numbers and strings keep their spelling. -/
inductive Lexeme where
  | name (spelling : List Char)
  | word (w : Word)
  | number (spelling : List Char)
  | string (spelling : List Char)
  | op (o : Op)
  | newline
  | indent
  | dedent
  | endMarker
  deriving DecidableEq

/-- A lexeme and the line on which it starts. -/
structure Token where
  lexeme : Lexeme
  line : Nat
  deriving DecidableEq

end AnnotatedMarkdown.Python
