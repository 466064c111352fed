import AnnotatedMarkdown.Diagnostic
import AnnotatedMarkdown.Store.Shape
import AnnotatedMarkdown.Value.Field

/-!
# Attached metadata

A `Store` holds the metadata of objects: as an attribute where the object takes one, and
in a registry otherwise.  `metadataFor` looks an object up, `withMeta` merges metadata
into those that the object has of its own; what it inherits from a class is not touched.
-/

namespace AnnotatedMarkdown

namespace Store

/-- The metadata of an object that refuses attributes.  A weak entry goes with its
object. -/
structure Registration where
  isWeak : Bool
  metadata : Entries

/-- Where a mapping of metadata is kept. -/
inductive Holder where
  | registry (o : ObjectId)
  | «attribute» (o : ObjectId)
  | slot (o : ObjectId)
  deriving DecidableEq

end Store

open Store

/-- The objects with their metadata. -/
structure Store where
  shapes : Shapes
  attributes : List (ObjectId × Value)
  slots : List (ObjectId × Value)
  registry : List (ObjectId × Registration)

namespace Store

/-- The value of a key in a list of pairs. -/
def lookup? (o : ObjectId) (pairs : List (ObjectId × α)) : Option α :=
  (pairs.find? fun e => e.1 == o).map Prod.snd

/-- Sets the value of a key in a list of pairs. -/
def update (o : ObjectId) (a : α) (pairs : List (ObjectId × α)) : List (ObjectId × α) :=
  (o, a) :: pairs.filter fun e => e.1 != o

theorem lookup?_update_self (o : ObjectId) (a : α) (pairs : List (ObjectId × α)) :
    lookup? o (update o a pairs) = some a := by
  simp [lookup?, update]

theorem lookup?_update_of_ne {o other : ObjectId} (h : o ≠ other) (a : α)
    (pairs : List (ObjectId × α)) : lookup? o (update other a pairs) = lookup? o pairs := by
  have hhead : (other == o) = false := beq_eq_false_iff_ne.2 (Ne.symm h)
  unfold lookup? update
  rw [List.find?_cons_of_neg (by simp [hhead]), List.find?_filter]
  congr 2
  funext e
  by_cases he : e.1 = o
  · simp [he, h]
  · simp [he]

/-- A store without objects. -/
def empty : Store :=
  ⟨[], [], [], []⟩

/-! ## Looking up -/

/-- What a class has under the name of the metadata attribute: a value, or the slot that it
gives its instances. -/
inductive ClassAttribute where
  | value (holder : ObjectId) (v : Value)
  | slot

/-- The metadata attribute of a class itself. -/
def ownClassAttribute? (s : Store) (c : ObjectId) : Option ClassAttribute :=
  match lookup? c s.attributes, s.shapes.shape? c with
  | some v, _ => some (.value c v)
  | none, some (.class .slotted _) => some .slot
  | _, _ => none

/-- The metadata attribute that an object finds in its lineage. -/
def classAttribute? (s : Store) (o : ObjectId) : Option ClassAttribute :=
  (s.shapes.lineage o).findSome? s.ownClassAttribute?

/-- Whether an object keeps attributes of its own. -/
def keepsAttributes (s : Store) (o : ObjectId) : Bool :=
  match s.shapes.shape? o with
  | some .function => true
  | some (.class _ _) => true
  | some (.instance _) => s.shapes.hasRoom o
  | _ => false

/-- A mapping with its holder, if a value is a mapping. -/
def mappingIn (holder : Holder) (v : Value) : Option (Holder × Entries) :=
  match v with
  | .dict entries => some (holder, entries)
  | _ => none

/-- The metadata that an object has of its own. -/
def own? (s : Store) (o : ObjectId) : Option (Holder × Entries) :=
  match lookup? o s.registry with
  | some r => some (.registry o, r.metadata)
  | none =>
    if s.keepsAttributes o then (lookup? o s.attributes).bind (mappingIn (.attribute o)) else none

/-- The metadata that an object finds as an attribute. -/
def found? (s : Store) (o : ObjectId) : Option (Holder × Entries) :=
  match s.shapes.shape? o with
  | some (.instance _) =>
    match s.classAttribute? o with
    | some .slot => (lookup? o s.slots).bind (mappingIn (.slot o))
    | inherited =>
      match lookup? o s.attributes, inherited with
      | some v, _ => mappingIn (.attribute o) v
      | none, some (.value c v) => mappingIn (.attribute c) v
      | none, _ => none
  | some (.class _ _) =>
    match s.classAttribute? o with
    | some (.value c v) => mappingIn (.attribute c) v
    | _ => none
  | _ => none

/-- The metadata of an object with their holder: its own or else those it finds. -/
def holding? (s : Store) (o : ObjectId) : Option (Holder × Entries) :=
  (s.own? o).or (s.found? o)

/-- The metadata of an object. -/
def metadataFor (s : Store) (o : ObjectId) : Entries :=
  ((s.holding? o).map Prod.snd).getD []

/-! ## Attaching -/

/-- Why an object refuses an attribute. -/
inductive Refusal where
  | noRoom
  | builtinClass

/-- Sets the metadata attribute of an object. -/
def assign (s : Store) (o : ObjectId) (v : Value) : Except Refusal Store :=
  let kept : Except Refusal Store := .ok { s with attributes := update o v s.attributes }
  match s.shapes.shape? o with
  | some .function => kept
  | some (.class _ _) => kept
  | some (.instance _) =>
    if s.shapes.isFrozen o then .error .noRoom
    else
      match s.classAttribute? o with
      | some .slot => .ok { s with slots := update o v s.slots }
      | _ => if s.shapes.hasRoom o then kept else .error .noRoom
  | some (.builtinClass _) => .error .builtinClass
  | _ => .error .noRoom

/-- Puts metadata of an object into the registry. -/
def register (s : Store) (o : ObjectId) (metadata : Entries) : Store :=
  { s with registry := update o ⟨s.shapes.isReferable o, metadata⟩ s.registry }

/-- The name of a field from its key, which has to be a text. -/
def fieldKey (key : Value) : Except Defect Text :=
  match key with
  | .str t => .ok (Field.name t)
  | .bytes _ => .error .keyBytes
  | _ => .error .keyNotText

/-- Metadata with further fields; of equal names the last field prevails. -/
def merge (metadata : Entries) : (fields : Entries) → Except Defect Entries
  | [] => .ok metadata
  | .mk key value :: fields => do
    merge (metadata.put (.str (← fieldKey key)) value) fields

/-- Merges fields into the metadata that an object has of its own. -/
def withMeta (s : Store) (o : ObjectId) (fields : Entries) : Except Defect Store := do
  let merged ← merge (((s.own? o).map Prod.snd).getD []) fields
  match s.assign o (.dict merged) with
  | .ok s => return s
  | .error _ => return s.register o merged

/-! ## Other changes -/

/-- Replaces a mapping where it is kept. -/
def replace (s : Store) (holder : Holder) (metadata : Entries) : Store :=
  match holder with
  | .registry o =>
    match lookup? o s.registry with
    | some r => { s with registry := update o { r with metadata } s.registry }
    | none => s
  | .attribute o => { s with attributes := update o (.dict metadata) s.attributes }
  | .slot o => { s with slots := update o (.dict metadata) s.slots }

mutual

/-- Whether a value can be the key of a mapping. -/
def isKey : Value → Bool
  | .list _ => false
  | .dict _ => false
  | .set _ => false
  | .raw _ _ => false
  | .tuple items => areKeys items
  | _ => true

/-- Whether several values can be keys. -/
def areKeys : List Value → Bool
  | [] => true
  | v :: vs => isKey v && areKeys vs

end

/-- Sets a key in the metadata of an object, wherever they are kept. -/
def setKey (s : Store) (o : ObjectId) (key value : Value) : Except Defect Store :=
  if isKey key then
    match s.holding? o with
    | some (holder, metadata) => .ok (s.replace holder (metadata.put key value))
    | none => .ok s
  else .error .unhashableKey

/-- Makes an object. -/
def make (s : Store) (o : ObjectId) (shape : Shape) : Except Defect Store :=
  let made : Except Defect Store := .ok { s with shapes := s.shapes ++ [(o, shape)] }
  match shape with
  | .class kind base => if s.shapes.canDerive kind base then made else .error .layoutConflict
  | _ => made

/-- Lets an object go: a weak entry of the registry goes with it. -/
def release (s : Store) (o : ObjectId) : Store :=
  { s with registry := s.registry.filter fun e => e.1 != o || !e.2.isWeak }

end Store

end AnnotatedMarkdown
