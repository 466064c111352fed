import AnnotatedMarkdown.Python.Body.Pattern

/-!
# Occurrences in expressions

What an expression mentions, and which rules it breaks where it stands.  A target is read
apart from a value: it binds its names, and a starred target stands in a list or a tuple.
-/

namespace AnnotatedMarkdown.Python

/-- What an expression or a statement is a part of. -/
inductive CodeUnit where
  | function
  | asyncFunction
  | lambda
  | comprehension
  | classBody
  | hint
  deriving DecidableEq

/-- The statements that `break`, `continue` and `return` leave. -/
inductive Enclosure where
  | loop
  | groupHandler
  | other
  deriving DecidableEq

/-- Where an expression or a statement stands: the class that its private names belong to,
whether it is in the source or in the target of a comprehension, what it is a part of, and
the statements around it, the innermost first. -/
structure Surroundings where
  owner : Option String
  isIterable : Bool
  isTarget : Bool
  unit : CodeUnit
  enclosures : List Enclosure

namespace Surroundings

/-- The surroundings of the body of a function that belongs to no class. -/
def body : Surroundings :=
  ⟨none, false, false, .function, []⟩

/-- The surroundings within a unit of its own. -/
def within (c : Surroundings) (unit : CodeUnit) : Surroundings :=
  { c with isTarget := false, unit := unit, enclosures := [] }

/-- The surroundings in the source of a comprehension. -/
def inSource (c : Surroundings) : Surroundings :=
  { c with isIterable := true }

/-- The surroundings in the target of a comprehension. -/
def inTarget (c : Surroundings) : Surroundings :=
  { c with isTarget := true }

/-- Whether `await` may stand there. -/
def mayAwait (c : Surroundings) : Bool :=
  c.unit = .asyncFunction || c.unit = .comprehension

end Surroundings

/-- A name as its class sees it: one with two low lines in front is private. -/
def privateName (owner : Option String) (name : String) : String :=
  match owner with
  | none => name
  | some o =>
    let cs := name.toList
    let stem := o.toList.dropWhile (· == '_')
    let isPrivate := cs.take 2 == ['_', '_'] && cs.reverse.take 2 != ['_', '_'] && !cs.contains '.'
    if isPrivate && !stem.isEmpty then String.ofList ('_' :: stem ++ cs) else name

/-- The words that no name can be. -/
def reservedNames : List String :=
  ["None", "True", "False"]

namespace Surroundings

/-- A mention of a name. -/
def mention (c : Surroundings) (role : Role) (name : String) : Occurrence :=
  .mention role c.isTarget (privateName c.owner name)

/-- A name that is used. -/
def usedName (c : Surroundings) (name : String) : Occurrences :=
  if reservedNames.contains name then [.reserved] else [c.mention .use name]

/-- A name that gets a value in some role. -/
def boundName (c : Surroundings) (role : Role) (name : String) : Occurrences :=
  c.mention role name :: Occurrence.misuseIf (name = debugName)

/-- A name that is a target. -/
def targetName (c : Surroundings) (name : String) : Occurrences :=
  if reservedNames.contains name then [.reserved] else c.boundName .bind name

/-- An assignment expression whose value has given occurrences.  Its target may be reserved. -/
def namedTarget (c : Surroundings) (name : String) (value : Occurrences) : Occurrences :=
  if c.isIterable || c.isTarget || c.unit = .hint then [.fault]
  else .named (privateName c.owner name) :: value ++ c.boundName .bind name

/-- A value that is handed out. -/
def yielded (c : Surroundings) (value : Occurrences) : Occurrences :=
  value ++ .yields :: Occurrence.faultIf (c.unit = .comprehension || c.unit = .hint)
    ++ Occurrence.misuseIf (c.unit = .classBody)

/-- A value that is waited for. -/
def awaited (c : Surroundings) (value : Occurrences) : Occurrences :=
  value ++ .awaits :: Occurrence.faultIf (c.unit = .hint)
    ++ Occurrence.misuseIf (!c.mayAwait)

/-- A comprehension, with what is found in the source of its first clause and in the
rest. -/
def comprehension (c : Surroundings) (isGenerator hasAsync : Bool) (source rest : Occurrences) :
    Occurrences :=
  let waits := !isGenerator && (hasAsync || rest.any Occurrence.isAwait)
  source ++ .inner .comprehension rest
    :: if waits then .awaits :: Occurrence.misuseIf (!c.mayAwait) else []

end Surroundings

/-- What annotations hold: they are read in a block of their own and not carried out. -/
def annotationBlock (os : Occurrences) : Occurrences :=
  [.inner .hint (Occurrence.unused os)]

/-- Whether a clause is asynchronous. -/
def Clause.isAsync : Clause → Bool
  | .mk isAsync _ _ _ => isAsync

/-- The name of a parameter. -/
def Parameter.name : Parameter → String
  | .mk _ name _ _ => name

/-- The name of a keyword argument. -/
def Keyword.name? : Keyword → Option String
  | .named name _ => some name
  | .unpack _ => none

/-- Whether an element is starred. -/
def Expr.isStarred : Expr → Bool
  | .starred _ => true
  | _ => false

/-- A misuse of keyword arguments: a name that is repeated or that cannot be bound. -/
def keywordMisuse (keywords : List Keyword) : Occurrences :=
  let names := keywords.filterMap Keyword.name?
  Occurrence.misuseIf (names.contains debugName || !areDistinctNames names)

/-- A misuse of starred targets: two of them, or one too far behind. -/
def starMisuse (targets : List Expr) : Occurrences :=
  Occurrence.misuseIf
    (1 < targets.countP Expr.isStarred || 256 ≤ (targets.findIdx? Expr.isStarred).getD 0)

/-- The mentions of parameters in their function. -/
def parameterMentions (c : Surroundings) (ps : List Parameter) : Occurrences :=
  ps.flatMap fun p => c.boundName .parameter p.name

mutual

/-- What is found in a value. -/
def found (c : Surroundings) : Expr → Occurrences
  | .boolean _ es => foundAll c es
  | .named target value => c.namedTarget target (found c value)
  | .binary l _ r => found c l ++ found c r
  | .unary _ e => found c e
  | .lambda ps e =>
    let inside := c.within .lambda
    foundInDefaults c ps ++ [.inner .function (parameterMentions inside ps ++ found inside e)]
  | .conditional t b e => found c t ++ found c b ++ found c e
  | .dict items => foundInItems c items
  | .set es => foundElements c es
  | .listComp e cs =>
    let inside := c.within .comprehension
    c.comprehension false (cs.any Clause.isAsync) (foundInSource c cs)
      (foundInClauses inside true cs ++ found inside e)
  | .setComp e cs =>
    let inside := c.within .comprehension
    c.comprehension false (cs.any Clause.isAsync) (foundInSource c cs)
      (foundInClauses inside true cs ++ found inside e)
  | .dictComp k v cs =>
    let inside := c.within .comprehension
    c.comprehension false (cs.any Clause.isAsync) (foundInSource c cs)
      (foundInClauses inside true cs ++ found inside v ++ found inside k)
  | .generator e cs =>
    let inside := c.within .comprehension
    c.comprehension true (cs.any Clause.isAsync) (foundInSource c cs)
      (foundInClauses inside true cs ++ found inside e)
  | .await e => c.awaited (found c e)
  | .yield e => c.yielded (foundOptional c e)
  | .yieldFrom e => c.yielded (found c e) ++ Occurrence.misuseIf (c.unit = .asyncFunction)
  | .compare l rs => found c l ++ foundInComparisons c rs
  | .call f es ks => found c f ++ foundElements c es ++ foundInKeywords c ks ++ keywordMisuse ks
  | .formatted e _ spec => found c e ++ foundOptional c spec
  | .joined es => foundAll c es
  | .constant _ => []
  | .attribute e _ => found c e
  | .subscript e i => found c e ++ found c i
  | .starred e => .misuse :: found c e
  | .name n => c.usedName n
  | .list es => foundElements c es
  | .tuple es => foundElements c es
  | .slice l u s => foundOptional c l ++ foundOptional c u ++ foundOptional c s

/-- What is found in a target. -/
def foundInTarget (c : Surroundings) : Expr → Occurrences
  | .name n => c.targetName n
  | .attribute e n => found c e ++ Occurrence.misuseIf (n = debugName)
  | .subscript e i => found c e ++ found c i
  | .starred e => .misuse :: foundInTarget c e
  | .list es => starMisuse es ++ foundInTargets c es
  | .tuple es => starMisuse es ++ foundInTargets c es
  | _ => []

/-- What is found in the parts of a target. -/
def foundInTargets (c : Surroundings) : List Expr → Occurrences
  | [] => []
  | .starred e :: es => foundInTarget c e ++ foundInTargets c es
  | e :: es => foundInTarget c e ++ foundInTargets c es

/-- What is found in values. -/
def foundAll (c : Surroundings) : List Expr → Occurrences
  | [] => []
  | e :: es => found c e ++ foundAll c es

/-- What is found in values some of which may be starred. -/
def foundElements (c : Surroundings) : List Expr → Occurrences
  | [] => []
  | .starred e :: es => found c e ++ foundElements c es
  | e :: es => found c e ++ foundElements c es

/-- What is found in a value that may be missing. -/
def foundOptional (c : Surroundings) : Option Expr → Occurrences
  | none => []
  | some e => found c e

/-- What is found in the annotations of parameters. -/
def foundInHints (c : Surroundings) : List Parameter → Occurrences
  | [] => []
  | .mk _ _ hint _ :: ps => foundOptional c hint ++ foundInHints c ps

/-- What is found in the default values of parameters. -/
def foundInDefaults (c : Surroundings) : List Parameter → Occurrences
  | [] => []
  | .mk _ _ _ fallback :: ps => foundOptional c fallback ++ foundInDefaults c ps

/-- What is found in the items of a dictionary display. -/
def foundInItems (c : Surroundings) : List DictItem → Occurrences
  | [] => []
  | .pair k v :: items => found c k ++ found c v ++ foundInItems c items
  | .unpack v :: items => found c v ++ foundInItems c items

/-- What is found in the operands of a comparison chain. -/
def foundInComparisons (c : Surroundings) : List Comparison → Occurrences
  | [] => []
  | .mk _ e :: rs => found c e ++ foundInComparisons c rs

/-- What is found in keyword arguments. -/
def foundInKeywords (c : Surroundings) : List Keyword → Occurrences
  | [] => []
  | .named _ v :: ks => found c v ++ foundInKeywords c ks
  | .unpack v :: ks => found c v ++ foundInKeywords c ks

/-- What is found in the source of the first clause, which is read outside. -/
def foundInSource (c : Surroundings) : List Clause → Occurrences
  | [] => []
  | .mk _ _ source _ :: _ => found c.inSource source

/-- What is found in the clauses of a comprehension but the source of the first one. -/
def foundInClauses (c : Surroundings) (isFirst : Bool) : List Clause → Occurrences
  | [] => []
  | .mk _ target source conditions :: cs =>
    foundInTarget c.inTarget target ++ (if isFirst then [] else found c.inSource source)
      ++ foundAll c conditions ++ foundInClauses c false cs

end

/-- What is found in a target that is changed in place or deleted. -/
def foundInPlace (c : Surroundings) : Expr → Occurrences
  | .attribute e _ => found c e
  | e => foundInTarget c e

/-- What is found in a base class or another value that may be starred. -/
def foundInBases (c : Surroundings) (bases : List Expr) (keywords : List Keyword) : Occurrences :=
  foundElements c bases ++ foundInKeywords c keywords ++ keywordMisuse keywords

end AnnotatedMarkdown.Python
