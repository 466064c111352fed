import AnnotatedMarkdown.Python.Body.Expression

/-!
# Occurrences in statements

What a statement mentions, and which rules it breaks where it stands: what may be left by
`break`, `continue` and `return`, what only an asynchronous function may do, and how many
statements may stand within each other.
-/

namespace AnnotatedMarkdown.Python

open Occurrence

/-- The most statements that stand within each other in one unit. -/
def maxEnclosures : Nat := 20

namespace Surroundings

/-- The surroundings within a statement. -/
def inside (c : Surroundings) (e : Enclosure) : Surroundings :=
  { c with enclosures := e :: c.enclosures }

/-- A misuse, if no further statement may stand within those around. -/
def depthMisuse (c : Surroundings) : Occurrences :=
  misuseIf (maxEnclosures ≤ c.enclosures.length)

/-- Whether a loop can be left: there is one, and no handler of a group in between. -/
def canLeaveLoop (c : Surroundings) : Bool :=
  (c.enclosures.find? fun e => e != .other) == some .loop

/-- Whether the function can be left. -/
def canReturn (c : Surroundings) : Bool :=
  c.unit ≠ .classBody && !c.enclosures.contains .groupHandler

/-- A misuse, unless the unit is an asynchronous function. -/
def asyncMisuse (c : Surroundings) (isAsync : Bool) : Occurrences :=
  misuseIf (isAsync && c.unit ≠ .asyncFunction)

end Surroundings

/-! ## Patterns -/

/-- A name that a pattern binds. -/
def patternName (c : Surroundings) (name : Option String) : Occurrences :=
  match name with
  | none => []
  | some n =>
    if n = "_" || reservedNames.contains n then [.reserved] else [c.mention .bind n]

/-- What is found in the name of an attribute that a pattern compares. -/
def patternKeyword (name : String) : Occurrences :=
  if reservedNames.contains name then [.reserved] else []

mutual

/-- What is found in a pattern. -/
def foundInPattern (c : Surroundings) : Pattern → Occurrences
  | .value e => found c e
  | .singleton _ => []
  | .sequence ps => foundInPatterns c ps
  | .mapping keys ps rest => foundAll c keys ++ foundInPatterns c ps ++ patternName c rest
  | .class f ps names ps' =>
    found c f ++ foundInPatterns c ps ++ names.flatMap patternKeyword ++ foundInPatterns c ps'
  | .star name => patternName c name
  | .capture none name => patternName c name
  | .capture (some p) name => foundInPattern c p ++ patternName c name
  | .alternatives ps => foundInPatterns c ps

/-- What is found in several patterns. -/
def foundInPatterns (c : Surroundings) : List Pattern → Occurrences
  | [] => []
  | p :: ps => foundInPattern c p ++ foundInPatterns c ps

end

/-! ## Simple statements -/

/-- The name that an import binds. -/
def Alias.bound (a : Alias) : String :=
  match a.boundAs with
  | some n => n
  | none => String.ofList (a.name.toList.takeWhile (· != '.'))

/-- What is found in imported names. -/
def foundInImports (c : Surroundings) (names : List Alias) : Occurrences :=
  names.flatMap fun a => c.boundName .imported a.bound

/-- What is found in an import from a module.  Only a whole file can ask for future
features or for all names. -/
def foundInImportFrom (c : Surroundings) (origin : Option String) (names : List Alias) :
    Occurrences :=
  misuseIf (origin = some "__future__") ++
    names.flatMap fun a => if a.name = "*" then [.fault] else c.boundName .imported a.bound

mutual

/-- Whether an index holds a starred element. -/
def Expr.holdsStar : Expr → Bool
  | .tuple es => anyHoldsStar es
  | .starred _ => true
  | _ => false

/-- Whether one of several parts of an index holds a starred element. -/
def anyHoldsStar : List Expr → Bool
  | [] => false
  | e :: es => e.holdsStar || anyHoldsStar es

end

/-- A misuse in the target of an annotation without a value: there, each part of an index is read
on its own. -/
def hintedMisuse (target : Expr) : Occurrences :=
  match target with
  | .subscript _ i => misuseIf i.holdsStar
  | _ => []

/-- What is found in an annotated assignment. -/
def foundInAnnotated (c : Surroundings) (target hint : Expr) (value : Option Expr)
    (isSimple : Bool) : Occurrences :=
  let bound :=
    match target with
    | .name n =>
      if reservedNames.contains n then [.reserved]
      else if isSimple then c.boundName .annotated n
      else if value.isSome then c.boundName .bind n
      else misuseIf (n = debugName)
    | e => foundInTarget c e ++ (if value.isSome then [] else hintedMisuse e)
  bound ++ annotationBlock (found (c.within .hint) hint) ++ foundOptional c value

/-- What is found in the managers and targets of a `with` statement, each of which stands
within those before it. -/
def foundInManagers (c : Surroundings) : List WithItem → Occurrences
  | [] => []
  | ⟨manager, target⟩ :: items =>
    let bound := match target with
      | some e => foundInTarget (c.inside .other) e
      | none => []
    found c manager ++ c.depthMisuse ++ bound ++ foundInManagers (c.inside .other) items

/-- What is found in a function and around it.  An asynchronous one that hands out values
returns none. -/
def functionOccurrences (c : Surroundings) (isAsync : Bool) (name : String)
    (parameters : List Parameter) (decorators : List Expr) (result : Option Expr)
    (body : Occurrences) : Occurrences :=
  let inner := parameterMentions (c.within .function) parameters ++ body
  let hinting := c.within .hint
  c.boundName .bind name ++ foundInDefaults c parameters
    ++ annotationBlock (foundInHints hinting parameters ++ foundOptional hinting result)
    ++ foundAll c decorators
    ++ misuseIf (isAsync && body.any isYield && body.any isReturn) ++ [.inner .function inner]

/-- The unit of a function. -/
def functionUnit (isAsync : Bool) : CodeUnit :=
  if isAsync then .asyncFunction else .function

/-- The surroundings in the body of a class. -/
def classSurroundings (c : Surroundings) (name : String) : Surroundings :=
  { c.within .classBody with owner := some name }

/-- The type of a handler. -/
def Handler.type : Handler → Option Expr
  | .mk type _ _ => type

/-- Whether a handler of every exception stands in front of another one. -/
def handlersMisplaced (hs : List Handler) : Bool :=
  hs.dropLast.any fun h => h.type.isNone

/-! ## Compound statements -/

mutual

/-- What is found in a statement. -/
def foundInStmt (c : Surroundings) : Stmt → Occurrences
  | .functionDef isAsync name parameters body decorators result =>
    functionOccurrences c isAsync name parameters decorators result
      (foundInStmts (c.within (functionUnit isAsync)) body)
  | .classDef name bases keywords body decorators =>
    c.boundName .bind name ++ foundInBases c bases keywords ++ foundAll c decorators
      ++ [.inner .classBody (foundInStmts (classSurroundings c name) body)]
  | .return value =>
    misuseIf (!c.canReturn) ++ foundOptional c value
      ++ (if value.isSome then [.returnsValue] else [])
  | .delete targets => targets.flatMap (foundInPlace c)
  | .assign targets value => targets.flatMap (foundInTarget c) ++ found c value
  | .augAssign target _ value => foundInPlace c target ++ found c value
  | .annAssign target hint value isSimple => foundInAnnotated c target hint value isSimple
  | .for isAsync target source body orElse =>
    c.asyncMisuse isAsync ++ c.depthMisuse ++ foundInTarget c target ++ found c source
      ++ foundInStmts (c.inside .loop) body ++ foundInStmts c orElse
  | .while test body orElse =>
    c.depthMisuse ++ found c test ++ foundInStmts (c.inside .loop) body ++ foundInStmts c orElse
  | .if test body orElse => found c test ++ foundInStmts c body ++ foundInStmts c orElse
  | .with isAsync items body =>
    let c' := { c with enclosures := items.map (fun _ => .other) ++ c.enclosures }
    c.asyncMisuse isAsync ++ foundInManagers c items ++ foundInStmts c' body
  | .match subject cases => found c subject ++ foundInCases c cases
  | .raise exception cause => foundOptional c exception ++ foundOptional c cause
  | .try isGroup body handlers orElse final =>
    let outer := if final.isEmpty then c else c.inside .other
    let inner := if handlers.isEmpty then outer else outer.inside .other
    let handling := outer.inside (if isGroup then .groupHandler else .other)
    (if final.isEmpty then [] else c.depthMisuse)
      ++ (if handlers.isEmpty then [] else outer.depthMisuse)
      ++ foundInStmts inner body ++ foundInStmts outer orElse
      ++ misuseIf (handlersMisplaced handlers) ++ foundInHandlers handling handlers
      ++ foundInStmts outer final
  | .assert test message => found c test ++ foundOptional c message
  | .import names => foundInImports c names
  | .importFrom origin names _ => foundInImportFrom c origin names
  | .global names => names.map (c.mention .global)
  | .nonlocal names => names.map (c.mention .nonlocal)
  | .expr e => found c e
  | .pass => []
  | .break => misuseIf (!c.canLeaveLoop)
  | .continue => misuseIf (!c.canLeaveLoop)

/-- What is found in statements. -/
def foundInStmts (c : Surroundings) : List Stmt → Occurrences
  | [] => []
  | s :: ss => foundInStmt c s ++ foundInStmts c ss

/-- What is found in the cases of a `match` statement. -/
def foundInCases (c : Surroundings) : List MatchCase → Occurrences
  | [] => []
  | .mk pattern guard body :: cases =>
    foundInPattern c pattern
      ++ misuseIf ((pattern.stored? (guard.isSome || cases.isEmpty) []).isNone)
      ++ foundOptional c guard ++ foundInStmts c body ++ foundInCases c cases

/-- What is found in the handlers of a `try` statement. -/
def foundInHandlers (c : Surroundings) : List Handler → Occurrences
  | [] => []
  | .mk type name body :: handlers =>
    let bound := match name with
      | some n => c.boundName .bind n
      | none => []
    foundOptional c type ++ bound ++ c.depthMisuse ++ foundInStmts (c.inside .other) body
      ++ foundInHandlers c handlers

end

end AnnotatedMarkdown.Python
