import AnnotatedMarkdown.Python.Parser.Statement

/-!
# Reading Python source

`parseModule` reads the statements of a module and `parseExpression` one expression
list.  Every level of nesting takes a token of the text, so the grammar with as many
levels as the text has characters reads every text.
-/

namespace AnnotatedMarkdown.Python

/-- Why a text cannot be read at all: it holds half of a surrogate pair, or a null
character, or it is not grammatical. -/
inductive SourceFault where
  | surrogate
  | null
  | grammar
  deriving DecidableEq

/-- The latest version of the grammar. -/
def latestVersion : Nat := 11

/-- The characters of a source text. -/
def sourceChars (source : Text) : Except SourceFault (List Char) :=
  match source.chars? with
  | none => .error .surrogate
  | some cs => if cs.contains '\x00' then .error .null else .ok cs

/-- Whether `async` and `await` are reserved words everywhere in a version. -/
def asyncReservedSince (version : Nat) : Bool :=
  7 ≤ version

/-- The grammar of a version for a text of some length. -/
def grammarFor (version length : Nat) : Grammar :=
  .level version (asyncReservedSince version) (length + 2)

/-- The value of a parser that reads all it is given. -/
def complete (p : Parser α) (tokens : List Token) : Except SourceFault α :=
  match p tokens with
  | .ok (a, _) => .ok a
  | .error _ => .error .grammar

/-- The statements of a module. -/
def parseModule (version : Nat) (source : Text) : Except SourceFault Module := do
  let cs ← sourceChars source
  let tokens := (lex 1 (asyncReservedSince version) (moduleSource cs)).tokens
  complete (grammarFor version cs.length).module tokens

/-- One expression list. -/
def parseExpression (source : Text) : Except SourceFault Expr := do
  let cs ← sourceChars source
  let tokens := (lex 1 true (unifyLineBreaks cs)).tokens
  complete (grammarFor latestVersion cs.length).soleExpression tokens

end AnnotatedMarkdown.Python
