import AnnotatedMarkdown.Diagnostic
import AnnotatedMarkdown.Python.Parser
import AnnotatedMarkdown.Text.Blank

/-!
# References and deferred expressions

A reference is a source text that holds exactly one statement, which is an expression.
The text of a deferred field is read as one expression list, blanks around it aside.
Both report an ungrammatical text.
-/

namespace AnnotatedMarkdown.Generation

open Python

/-- The failure for a source text that cannot be read: `diagnostic` reports an
ungrammatical one. -/
def sourceFailure (diagnostic : Diagnostic) : SourceFault → Failure
  | .surrogate => .defect .loneSurrogate
  | .null => .defect .nullCharacter
  | .grammar => .diagnostic diagnostic

/-- The value of a module that is a single expression. -/
def soleExpression? : Module → Option Expr
  | [.expr e] => some e
  | _ => none

/-- The expression of a reference. -/
def parseReference (source : Text) : Except Failure Expr := do
  let statements ←
    (parseModule latestVersion source).mapError (sourceFailure (.reference .grammar source))
  match soleExpression? statements with
  | some e => return e
  | none => throw (.diagnostic (.reference .notSingle source))

/-- The expression of a deferred field. -/
def parseDeferred (source : Text) : Except Failure Expr :=
  (parseExpression source.trim).mapError (sourceFailure (.reference .grammar source))

end AnnotatedMarkdown.Generation
