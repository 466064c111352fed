/-!
# Recognized constituents

A recognizer reports where the constituents of a text start, and of an expression
as much as tells whether it can be assigned to or deleted.  `Node.invalidTarget?`
finds the first part of an expression that cannot.
-/

namespace AnnotatedMarkdown.Python.Recognition

/-- A recognized constituent with the line on which it starts.  Names, numbers and
string literals keep their spelling, displays and repetitions their elements. -/
inductive Node where
  | nothing
  | plain (line : Nat)
  | name (line : Nat) (spelling : List Char)
  | number (line : Nat) (spelling : List Char)
  | string (line : Nat) (spelling : List Char)
  | place (line : Nat)
  | sequence (line : Nat) (elements : List Node)
  | starred (line : Nat) (value : Node)
  | comparison (line : Nat)
  | membership (line : Nat) (left : Node)

/-- The line on which a constituent starts. -/
def Node.line : Node → Nat
  | .nothing => 0
  | .plain line => line
  | .name line _ => line
  | .number line _ => line
  | .string line _ => line
  | .place line => line
  | .sequence line _ => line
  | .starred line _ => line
  | .comparison line => line
  | .membership line _ => line

/-- The elements of a display or of a repetition. -/
def Node.elements : Node → List Node
  | .sequence _ elements => elements
  | _ => []

/-- Whether a constituent is starred. -/
def Node.isStarred : Node → Bool
  | .starred _ _ => true
  | _ => false

/-! ## Targets -/

/-- What an expression is the target of. -/
inductive TargetUse where
  | assignment
  | loop
  | deletion
  deriving DecidableEq

mutual

/-- The first part of an expression that keeps it from being a target.  In front of
a loop the left side of a test for membership counts. -/
def Node.invalidTarget? (u : TargetUse) : Node → Option Node
  | .name _ _ => none
  | .place _ => none
  | .sequence _ elements => firstInvalidTarget? u elements
  | .starred line value =>
    if u = .deletion then some (.starred line value) else value.invalidTarget? u
  | .membership line left =>
    if u = .loop then left.invalidTarget? u else some (.membership line left)
  | .comparison line => if u = .loop then none else some (.comparison line)
  | e => some e

/-- The first part of several expressions that keeps them from being targets. -/
def firstInvalidTarget? (u : TargetUse) : List Node → Option Node
  | [] => none
  | e :: es =>
    match e.invalidTarget? u with
    | some part => some part
    | none => firstInvalidTarget? u es

end

end AnnotatedMarkdown.Python.Recognition
