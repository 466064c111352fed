import AnnotatedMarkdown.Documentation.Example
import AnnotatedMarkdown.Generation.Attachment
import AnnotatedMarkdown.Python.Body
import AnnotatedMarkdown.Python.FaultLine

/-!
# Example definitions

An example becomes a function without parameters, which stands before the statement
that attaches it.  The functions of a module are numbered: an example takes a number as
soon as its source is grammatical, whether or not it can be the body of a function.
-/

namespace AnnotatedMarkdown.Inference

open Documentation Generation Python

/-- How examples are read and named: the version of the grammar, and what stands before
the number in the name of a function. -/
structure Settings where
  version : Option (Int × Int)
  namePrefix : Text

/-- The latest grammar and the usual name. -/
def Settings.default : Settings :=
  ⟨none, "_example"⟩

/-- The minor version of the grammar that settings ask for. -/
def Settings.grammarVersion (s : Settings) : Except Defect Nat :=
  match s.version with
  | none => .ok latestVersion
  | some (major, minor) =>
    if major ≠ 3 then .error .grammarMajor
    else if minor < -0x80000000 ∨ 0x80000000 ≤ minor then .error .grammarMinor
    else .ok (if minor < 0 then latestVersion else minor.toNat)

/-! ## Definitions -/

/-- A function definition without a body, made from a name. -/
def definitionHead (name : Text) : Text :=
  Text.concat ["def ", name, "():\n    pass\n"]

/-- A function without parameters.  The name is read as it would be in source text. -/
def functionDefinition (name : Text) (body : List Stmt) : Except Failure (String × Stmt) := do
  let statements ←
    (parseModule latestVersion (definitionHead name)).mapError fun
      | .surrogate => .defect .loneSurrogate
      | .null => .defect .nullCharacter
      | .grammar => .defect .definitionName
  match statements with
  | .functionDef isAsync id parameters _ decorators result :: _ =>
    let body := if body.isEmpty then [.pass] else body
    return (id, .functionDef isAsync id parameters body decorators result)
  | _ => throw (.defect .definitionName)

/-- The name of the function with a number. -/
def Settings.functionName (s : Settings) (number : Nat) : Text :=
  Text.concat [s.namePrefix, "_", .ofNat number]

/-- The statements of an example. -/
def parseSource (s : Settings) (reference name source : Text) : Except Failure Module := do
  let version ← s.grammarVersion.mapError .defect
  (parseModule version source).mapError fun
    | .surrogate => .defect .loneSurrogate
    | .null => .defect .nullCharacter
    | .grammar =>
      let line := faultLine version ((source.chars?).getD [])
      .diagnostic (.sample (.grammar line) reference name)

/-- The entry of the list of examples that stands for a definition. -/
def exampleEntry (name : Text) (e : Example) (function : String) (definition : Stmt) : Entries :=
  let tag := withMetaCall (.name function) (.dict [.pair (textLiteral "source") (textLiteral e.source)])
  Entries.ofList
    [.mk (.str "name") (.str name), .mk (.str "call") (.raw tag [definition]),
      .mk (.str "inferred") (.bool e.inferred)]

/-- The entry of an example whose statements have been read, with a number. -/
def defineExample (s : Settings) (number : Nat) (reference name : Text) (e : Example)
    (body : Module) : Except Failure Entries := do
  let (function, definition) ← functionDefinition (s.functionName number) body
  if name.contains (.scalar '\x00') then
    throw (.defect .nullCharacter)
  else
    match bodyFault? body with
    | some .rule => throw (.diagnostic (.sample .functionBody reference name))
    | some .reservedIdentifier => throw (.defect .reservedIdentifier)
    | none => return exampleEntry name e function definition

/-- The entry of an example, and the next number. -/
def inferExample (s : Settings) (number : Nat) (reference : Text) (e : Example) :
    Except Failure Entries × Nat :=
  let name := e.name.getD []
  match parseSource s reference name e.source with
  | .error f => (.error f, number)
  | .ok body => (defineExample s number reference name e body, number + 1)

/-- The entries of several examples up to the first failure, and the next number. -/
def inferAll (s : Settings) (number : Nat) (reference : Text) :
    List Example → Except Failure (List Value) × Nat
  | [] => (.ok [], number)
  | e :: es =>
    match inferExample s number reference e with
    | (.error f, next) => (.error f, next)
    | (.ok entry, next) =>
      match inferAll s next reference es with
      | (.error f, next) => (.error f, next)
      | (.ok entries, next) => (.ok (.dict entry :: entries), next)

/-- The metadata that examples add, which is none without examples, and the next
number. -/
def inferExamples (s : Settings) (number : Nat) (reference : Text) (examples : List Example) :
    Except Failure Entries × Nat :=
  if examples.isEmpty then (.ok [], number)
  else
    let (outcome, next) := inferAll s number reference examples
    (outcome.map fun entries => [.mk (.str "examples") (.list entries)], next)

end AnnotatedMarkdown.Inference
