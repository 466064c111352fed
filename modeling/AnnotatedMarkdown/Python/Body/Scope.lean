import AnnotatedMarkdown.Python.Body.Occurrence

/-!
# Scopes

The roles that each name has in a block, and the blocks within.  `Scope.ofOccurrences?`
collects them: a name cannot be declared global or nonlocal after it has been used, and
an assignment expression in a comprehension binds its target in the function around.
`Scope.isSettled` asks for a binding of every nonlocal name.
-/

namespace AnnotatedMarkdown.Python

/-- The roles that a name has in a block. -/
structure Roles where
  isUsed : Bool
  isBound : Bool
  isParameter : Bool
  isImported : Bool
  isAnnotated : Bool
  isGlobal : Bool
  isNonlocal : Bool
  isIteration : Bool
  deriving DecidableEq

/-- A name without a role. -/
def Roles.none : Roles :=
  ⟨false, false, false, false, false, false, false, false⟩

/-- Whether a name belongs to its block. -/
def Roles.isLocal (r : Roles) : Bool :=
  (r.isBound || r.isParameter || r.isImported) && !r.isGlobal && !r.isNonlocal

/-- Whether a name is declared to belong elsewhere. -/
def Roles.isDeclared (r : Roles) : Bool :=
  r.isGlobal || r.isNonlocal

/-- Whether a name may still be declared to belong elsewhere. -/
def Roles.isFresh (r : Roles) : Bool :=
  !r.isUsed && !r.isBound && !r.isParameter && !r.isAnnotated

/-- A further role, unless it conflicts with those that the name has. -/
def Roles.add? (r : Roles) (role : Role) : Option Roles :=
  match role with
  | .use => some { r with isUsed := true }
  | .bind => some { r with isBound := true }
  | .parameter => if r.isParameter then Option.none else some { r with isParameter := true }
  | .imported => some { r with isImported := true }
  | .annotated =>
    if r.isDeclared then Option.none else some { r with isAnnotated := true, isBound := true }
  | .global => if r.isFresh then some { r with isGlobal := true } else Option.none
  | .nonlocal => if r.isFresh then some { r with isNonlocal := true } else Option.none

/-- The names of a block with their roles. -/
abbrev NameTable := List (String × Roles)

namespace NameTable

/-- The roles of a name. -/
def roles (t : NameTable) (name : String) : Roles :=
  ((t.find? fun e => e.1 == name).map Prod.snd).getD .none

/-- Sets the roles of a name. -/
def set (t : NameTable) (name : String) (r : Roles) : NameTable :=
  (name, r) :: t.filter fun e => e.1 != name

/-- Adds a role of a name. -/
def add? (t : NameTable) (role : Role) (name : String) : Option NameTable :=
  ((t.roles name).add? role).map (t.set name)

end NameTable

/-- A block with its names and the blocks within. -/
inductive Scope where
  | mk (kind : ScopeKind) (names : NameTable) (inner : List Scope)

/-- A block that is being read. -/
structure Frame where
  kind : ScopeKind
  names : NameTable
  inner : List Scope

namespace Frame

/-- Adds a mention of a name.  The target of a comprehension cannot be a name that an
assignment expression has claimed. -/
def mention? (f : Frame) (role : Role) (isIteration : Bool) (name : String) : Option Frame := do
  if isIteration && (f.names.roles name).isDeclared then none
  else
    let names ← f.names.add? role name
    let r := names.roles name
    return { f with names := names.set name { r with isIteration := r.isIteration || isIteration } }

/-- Declares that a name belongs elsewhere, whatever it has been used for. -/
def claim (f : Frame) (isGlobal : Bool) (name : String) : Frame :=
  let r := f.names.roles name
  let r := if isGlobal then { r with isGlobal := true } else { r with isNonlocal := true }
  { f with names := f.names.set name r }

end Frame

/-- Binds the target of an assignment expression: the blocks around a comprehension are
searched for a function or the module.  An annotation is passed over.  The result tells whether
the name is global there. -/
def bindOutside? (name : String) : List Frame → Option (Bool × List Frame)
  | [] => none
  | f :: fs =>
    match f.kind with
    | .comprehension =>
      let r := f.names.roles name
      if r.isIteration then none
      else (bindOutside? name fs).map fun (isGlobal, fs) => (isGlobal, f :: fs)
    | .function => do
      let isGlobal := (f.names.roles name).isGlobal
      let g ← f.mention? .bind false name
      return (isGlobal, g :: fs)
    | .module => some (true, f.claim true name :: fs)
    | .classBody => none
    | .hint => (bindOutside? name fs).map fun (isGlobal, fs) => (isGlobal, f :: fs)

/-- Reads the target of an assignment expression. -/
def readNamed? (name : String) (fs : List Frame) : Option (List Frame) :=
  match fs with
  | [] => none
  | f :: _ =>
    if f.kind = .comprehension then
      match bindOutside? name fs with
      | some (isGlobal, f :: fs) => some (f.claim isGlobal name :: fs)
      | _ => none
    else some fs

/-- Closes the innermost block.  The names of an annotation are nowhere asked for. -/
def closeFrame? : List Frame → Option (List Frame)
  | f :: g :: fs =>
    if f.kind = .hint then some (g :: fs)
    else some ({ g with inner := g.inner ++ [.mk f.kind f.names f.inner] } :: fs)
  | _ => none

mutual

/-- Reads one occurrence; the innermost block comes first. -/
def readOccurrence? (fs : List Frame) : Occurrence → Option (List Frame)
  | .mention role isIteration name =>
    match fs with
    | f :: fs => (f.mention? role isIteration name).map (· :: fs)
    | [] => none
  | .named name => readNamed? name fs
  | .inner kind within => do
    let fs ← readOccurrences? (⟨kind, [], []⟩ :: fs) within
    closeFrame? fs
  | .fault => none
  | _ => some fs

/-- Reads several occurrences. -/
def readOccurrences? (fs : List Frame) : List Occurrence → Option (List Frame)
  | [] => some fs
  | o :: os => do
    let fs ← readOccurrence? fs o
    readOccurrences? fs os

end

namespace Scope

/-- The scope of a block with given occurrences, unless a rule of names is broken. -/
def ofOccurrences? (kind : ScopeKind) (os : Occurrences) : Option Scope := do
  match ← readOccurrences? [⟨kind, [], []⟩] os with
  | f :: _ => return .mk f.kind f.names f.inner
  | [] => none

/-- The names that blocks within see as bound around them.  Those of a module are not. -/
def visibleNames (kind : ScopeKind) (names : NameTable) (bound : List String) : List String :=
  match kind with
  | .module => bound
  | .classBody => "__class__" :: bound
  | _ =>
    let own := (names.filter fun e => e.2.isLocal).map Prod.fst
    own ++ bound.filter fun n => !(names.roles n).isGlobal

/-- Whether the roles of a name agree, and there is a binding for it if it is nonlocal. -/
def isSound (bound : List String) (name : String) (r : Roles) : Bool :=
  !(r.isNonlocal && (r.isGlobal || !bound.contains name))

mutual

/-- Whether every nonlocal name of a block and of the blocks within is bound around it. -/
def isSettled (bound : List String) : Scope → Bool
  | .mk kind names inner =>
    (names.all fun e => isSound bound e.1 e.2)
      && areSettled (visibleNames kind names bound) inner

/-- Whether every nonlocal name of several blocks is bound around them. -/
def areSettled (bound : List String) : List Scope → Bool
  | [] => true
  | s :: ss => isSettled bound s && areSettled bound ss

end

end Scope

end AnnotatedMarkdown.Python
