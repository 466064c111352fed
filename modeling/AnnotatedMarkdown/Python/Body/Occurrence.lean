import AnnotatedMarkdown.Python.Syntax

/-!
# Occurrences of names

What a block of statements says about names, in the order in which it is read: each
mention of a name with its role, the blocks within, and the places where a rule is
broken.  Rules about the roles of names are decided from the occurrences alone.
-/

namespace AnnotatedMarkdown.Python

/-- The blocks that have names of their own. -/
inductive ScopeKind where
  | module
  | function
  | comprehension
  | classBody
  | hint
  deriving DecidableEq

/-- The role of a mention. -/
inductive Role where
  | use
  | bind
  | parameter
  | imported
  | annotated
  | global
  | nonlocal
  deriving DecidableEq

/-- What is found in a block.  `named` is the target of an assignment expression, which a
comprehension hands to the block around it.  A `fault` breaks a rule of names and a
`misuse` a rule of statements; an identifier may be `reserved`. -/
inductive Occurrence where
  | mention (role : Role) (isIteration : Bool) (name : String)
  | named (name : String)
  | inner (kind : ScopeKind) (occurrences : List Occurrence)
  | fault
  | misuse
  | reserved
  | yields
  | awaits
  | returnsValue

/-- What is found in a block. -/
abbrev Occurrences := List Occurrence

namespace Occurrence

/-- A misuse, if a condition holds. -/
def misuseIf (b : Bool) : Occurrences :=
  if b then [misuse] else []

/-- A fault, if a condition holds. -/
def faultIf (b : Bool) : Occurrences :=
  if b then [fault] else []

/-- Whether an occurrence is the mark of a value that is handed out. -/
def isYield : Occurrence → Bool
  | yields => true
  | _ => false

/-- Whether an occurrence is the mark of waiting. -/
def isAwait : Occurrence → Bool
  | awaits => true
  | _ => false

/-- Whether an occurrence is the mark of a value that is returned. -/
def isReturn : Occurrence → Bool
  | returnsValue => true
  | _ => false

mutual

/-- Whether a property holds of an occurrence, or of one in a block within. -/
def anyWithin (p : Occurrence → Bool) : Occurrence → Bool
  | inner kind os => p (inner kind os) || anyAmong p os
  | o => p o

/-- Whether a property holds of one of several occurrences, or in a block within. -/
def anyAmong (p : Occurrence → Bool) : List Occurrence → Bool
  | [] => false
  | o :: os => anyWithin p o || anyAmong p os

end

mutual

/-- What is found in a part that is read but not carried out. -/
def unused : List Occurrence → List Occurrence
  | [] => []
  | misuse :: os => unused os
  | inner kind within :: os => inner kind (unused within) :: unused os
  | o :: os => o :: unused os

end

end Occurrence

end AnnotatedMarkdown.Python
