import AnnotatedMarkdown.Python.Body.Occurrence
import AnnotatedMarkdown.Value.Basic

/-!
# Rules of patterns

A pattern binds no name twice, its alternatives bind the same names, and a pattern that
always matches comes last.  `Pattern.stored?` gives the names that a pattern binds if it
keeps these rules.
-/

namespace AnnotatedMarkdown.Python

/-- The name that cannot be bound. -/
def debugName : String :=
  "__debug__"

/-! ## Values in patterns -/

/-- A value without an imaginary part. -/
def realComparand (v : Value) : Value × Binary64 :=
  (v, .zero false)

/-- A literal as a value; the parts of a complex number are kept apart. -/
def constantComparand? (c : Constant) : Option (Value × Binary64) :=
  match c with
  | .none => some (realComparand .none)
  | .true => some (realComparand (.bool true))
  | .false => some (realComparand (.bool false))
  | .ellipsis => none
  | .string t _ => some (realComparand (.str t))
  | .bytes bs => some (realComparand (.bytes bs))
  | .int n => some (realComparand (.int n))
  | .float x => some (realComparand (.float x))
  | .imaginary x => some (.float (.zero false), x)

/-- A number with the other sign. -/
def negated : Value → Value
  | .int n => .int (-n)
  | .float x => .float x.neg
  | v => v

/-- The value of a literal in a pattern: a constant, or a number made of a sign, a real
and an imaginary part. -/
def Expr.comparand? : Expr → Option (Value × Binary64)
  | .constant c => constantComparand? c
  | .unary .minus (.constant c) => (constantComparand? c).map fun (v, x) => (negated v, x.neg)
  | .binary left op (.constant (.imaginary y)) =>
    left.comparand?.map fun (v, _) => (v, if op = .sub then y.neg else y)
  | _ => none

/-- Whether two values of literals are equal. -/
def sameComparand (a b : Value × Binary64) : Bool :=
  a.1.same b.1 && a.2.sameValue b.2

/-- Whether an expression is a formatted string, which no pattern compares with. -/
def Expr.isFormatted : Expr → Bool
  | .joined _ => true
  | _ => false

/-- Whether values are pairwise different. -/
def areDistinct : List (Value × Binary64) → Bool
  | [] => true
  | v :: vs => !(vs.any (sameComparand v)) && areDistinct vs

/-- Whether names are pairwise different. -/
def areDistinctNames : List String → Bool
  | [] => true
  | n :: ns => !ns.contains n && areDistinctNames ns

/-! ## Names in patterns -/

/-- Whether a pattern takes the rest of a sequence. -/
def Pattern.isStar : Pattern → Bool
  | .star _ => true
  | _ => false

/-- The place of the first pattern that takes the rest of a sequence. -/
def starPlace (ps : List Pattern) : Nat :=
  (ps.findIdx? Pattern.isStar).getD 0

/-- Adds a name that a pattern binds. -/
def store? (stored : List String) (name : Option String) : Option (List String) :=
  match name with
  | none => some stored
  | some n => if n = debugName || stored.contains n then none else some (stored ++ [n])

/-- Adds several names that a pattern binds. -/
def storeAll? (stored : List String) : List String → Option (List String)
  | [] => some stored
  | n :: ns =>
    match store? stored (some n) with
    | some stored => storeAll? stored ns
    | none => none

/-- Whether two lists hold the same names; neither holds a name twice. -/
def sameNames (ns ms : List String) : Bool :=
  ns.length == ms.length && ns.all ms.contains

mutual

/-- The names that a pattern binds after others, if it keeps the rules.  `isLast` tells
whether it may match always. -/
def Pattern.stored? (isLast : Bool) (stored : List String) : Pattern → Option (List String)
  | .value e => if e.isFormatted then none else some stored
  | .singleton _ => some stored
  | .sequence ps =>
    if 1 < ps.countP Pattern.isStar || 256 ≤ starPlace ps then none
    else storedInAll? stored ps
  | .mapping keys ps rest =>
    if keys.any Expr.isFormatted || !areDistinct (keys.filterMap Expr.comparand?) then none
    else do store? (← storedInAll? stored ps) rest
  | .class _ ps names ps' =>
    if names.contains debugName || !areDistinctNames names then none
    else do storedInAll? (← storedInAll? stored ps) ps'
  | .star name => store? stored name
  | .capture none name => if isLast then store? stored name else none
  | .capture (some p) name => do store? (← p.stored? isLast stored) name
  | .alternatives ps => do storeAll? stored (← storedInEach? isLast ps)

/-- The names that the parts of a pattern bind after others. -/
def storedInAll? (stored : List String) : List Pattern → Option (List String)
  | [] => some stored
  | p :: ps => do storedInAll? (← p.stored? true stored) ps

/-- The names that each of several alternatives binds. -/
def storedInEach? (isLast : Bool) : List Pattern → Option (List String)
  | [] => some []
  | [p] => p.stored? isLast []
  | p :: ps => do
    let ns ← p.stored? false []
    let ms ← storedInEach? isLast ps
    if sameNames ns ms then some ns else none

end

end AnnotatedMarkdown.Python
