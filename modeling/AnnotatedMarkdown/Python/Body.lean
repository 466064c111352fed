import AnnotatedMarkdown.Python.Body.Scope
import AnnotatedMarkdown.Python.Body.Statement

/-!
# Statements as the body of a function

Grammatical statements need not make a function: names have to have one role each, and
many statements and expressions are allowed in certain places only.  `bodyFault?` decides
whether statements can be the body of a function without parameters.
-/

namespace AnnotatedMarkdown.Python

/-- Why statements cannot be the body of a function: a rule is broken, or an identifier
that the tree holds is reserved. -/
inductive BodyFault where
  | rule
  | reservedIdentifier
  deriving DecidableEq

/-- Whether an occurrence is an identifier that is reserved. -/
def Occurrence.isReserved : Occurrence → Bool
  | reserved => true
  | _ => false

/-- Whether an occurrence is a misuse. -/
def Occurrence.isMisuse : Occurrence → Bool
  | misuse => true
  | _ => false

/-- Whether the names of a block have one role each, and a binding if they need one. -/
def namesAgree (kind : ScopeKind) (os : Occurrences) : Bool :=
  (Scope.ofOccurrences? kind os).any (Scope.isSettled [])

/-- What is wrong with a block in which given occurrences are found, if anything is. -/
def blockFault? (kind : ScopeKind) (os : Occurrences) : Option BodyFault :=
  if Occurrence.anyAmong Occurrence.isReserved os then some .reservedIdentifier
  else if Occurrence.anyAmong Occurrence.isMisuse os || !namesAgree kind os then some .rule
  else none

/-- What is wrong with the statements of a function body, if anything is. -/
def bodyFault? (body : List Stmt) : Option BodyFault :=
  blockFault? .function (foundInStmts .body body)

end AnnotatedMarkdown.Python
