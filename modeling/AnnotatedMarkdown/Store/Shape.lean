import AnnotatedMarkdown.Value.Basic

/-!
# Objects

Metadata are attached to objects: functions, classes and their instances.  What an object
does with an attribute depends on its shape.  A function and a class take it.  An instance
takes it unless a class in its lineage forbids it or none leaves room for it.  Builtin
objects refuse it.

A class derives from at most one other class here, and is of the kind of all classes: an
attribute is looked up along a single line.  Classes with several bases and metaclasses are
left out.
-/

namespace AnnotatedMarkdown.Store

/-- The identity of an object. -/
abbrev ObjectId := Nat

/-- What a class leaves room for in its instances: any attribute; nothing; nothing but a
weak reference; a slot for metadata; or attributes that must not be set. -/
inductive ClassKind where
  | «open»
  | sealed
  | sealedReferable
  | slotted
  | frozen
  deriving DecidableEq

/-- The shape of an object.  Instances of a builtin class of variable size have no room
for weak references and slots. -/
inductive Shape where
  | function
  | builtinFunction
  | builtinClass (isVariable : Bool)
  | «class» (kind : ClassKind) (base : Option ObjectId)
  | «instance» (of : ObjectId)
  deriving DecidableEq

/-- The objects that have been made. -/
abbrev Shapes := List (ObjectId × Shape)

namespace Shapes

/-- The shape of an object. -/
def shape? (s : Shapes) (o : ObjectId) : Option Shape :=
  (s.find? fun e => e.1 == o).map Prod.snd

/-- A class and those it derives from, at most a number of them, the nearest first. -/
def ancestry (s : Shapes) (c : ObjectId) : (steps : Nat) → List ObjectId
  | 0 => []
  | steps + 1 =>
    match s.shape? c with
    | some (.class _ (some base)) => c :: s.ancestry base steps
    | _ => [c]

/-- The classes among which an attribute of an object is looked up: those of an instance,
and a class with those it derives from. -/
def lineage (s : Shapes) (o : ObjectId) : List ObjectId :=
  match s.shape? o with
  | some (.instance of) => s.ancestry of s.length
  | some (.class _ _) => s.ancestry o s.length
  | some (.builtinClass _) => [o]
  | _ => []

/-- Whether a class in the lineage of an object satisfies a property. -/
def anyAncestor (s : Shapes) (o : ObjectId) (p : Shape → Bool) : Bool :=
  (s.lineage o).any fun c => (s.shape? c).any p

/-- Whether an object forbids that its attributes are set. -/
def isFrozen (s : Shapes) (o : ObjectId) : Bool :=
  s.anyAncestor o fun
    | .class .frozen _ => true
    | _ => false

/-- Whether an instance has room for any attribute. -/
def hasRoom (s : Shapes) (o : ObjectId) : Bool :=
  s.anyAncestor o fun
    | .class .open _ => true
    | .class .frozen _ => true
    | _ => false

/-- Whether an object is of variable size. -/
def isVariable (s : Shapes) (o : ObjectId) : Bool :=
  s.anyAncestor o fun
    | .builtinClass isVariable => isVariable
    | _ => false

/-- Whether an instance can be referred to weakly. -/
def isReferable (s : Shapes) (o : ObjectId) : Bool :=
  !s.isVariable o && s.anyAncestor o fun
    | .class .open _ => true
    | .class .frozen _ => true
    | .class .sealedReferable _ => true
    | _ => false

/-- Whether a class of a kind can derive from another one: there is room for what it adds,
and a weak reference is added once only. -/
def canDerive (s : Shapes) (kind : ClassKind) (base : Option ObjectId) : Bool :=
  match base with
  | none => true
  | some b =>
    match kind with
    | .slotted => !s.isVariable b
    | .sealedReferable => !s.isVariable b && !s.isReferable b
    | _ => true

end Shapes

end AnnotatedMarkdown.Store
