import AnnotatedMarkdown.Yaml.Constant
import AnnotatedMarkdown.Yaml.Lexer
import AnnotatedMarkdown.Yaml.Node

/-!
# Documents

The value that a document stands for.  `Node.merged` replaces the merges of a tree by the
pairs that they bring in, `Node.build` makes the value of a tree without merges, and
`load` reads the document of a text.
-/

namespace AnnotatedMarkdown.Yaml

/-! ## Merges -/

/-- Whether the items of a sequence are single pairs, which are left as they are. -/
def Tag.holdsPairs : Tag → Bool
  | .omap => true
  | .pairs => true
  | _ => false

mutual

/-- A tree in which each mapping holds the pairs that its merges bring in, in front of
its own ones.  A mapping with a merge of something else keeps it. -/
def Node.merged : Node → Node
  | .scalar tag text => .scalar tag text
  | .sequence tag items =>
    .sequence tag (if tag.holdsPairs then mergedSingles items else mergedItems items)
  | .mapping tag pairs => .mapping tag ((flattened? pairs).getD pairs)

/-- The items of a sequence without merges. -/
def mergedItems : List Node → List Node
  | [] => []
  | n :: ns => n.merged :: mergedItems ns

/-- The items of a sequence of pairs: merges are replaced only within the pairs. -/
def mergedSingles : List Node → List Node
  | [] => []
  | .mapping tag pairs :: ns => .mapping tag (mergedPairs pairs) :: mergedSingles ns
  | n :: ns => n :: mergedSingles ns

/-- Pairs whose keys and values are without merges. -/
def mergedPairs : List Pair → List Pair
  | [] => []
  | .mk k v :: ps => .mk k.merged v.merged :: mergedPairs ps

/-- The pairs of a mapping: those that merges bring in, then its own ones. -/
def flattened? : List Pair → Option (List Pair)
  | ps => (splitMerges ps).map fun (inherited, own) => inherited ++ own

/-- The pairs that merges bring in, and the other pairs. -/
def splitMerges : List Pair → Option (List Pair × List Pair)
  | [] => some ([], [])
  | .mk k v :: ps => do
    let (inherited, own) ← splitMerges ps
    if k.tag = .merge then
      let brought ← inherited? v
      return (brought ++ inherited, own)
    else return (inherited, .mk k.merged v.merged :: own)

/-- The pairs that a merge of a node brings in. -/
def inherited? : Node → Option (List Pair)
  | .mapping _ pairs => flattened? pairs
  | .sequence _ items => inheritedAll? items
  | .scalar _ _ => none

/-- The pairs that a merge of several mappings brings in; the first mapping comes last,
where its pairs prevail. -/
def inheritedAll? : List Node → Option (List Pair)
  | [] => some []
  | .mapping _ pairs :: ns => do
    let brought ← flattened? pairs
    let others ← inheritedAll? ns
    return others ++ brought
  | _ :: _ => none

end

/-! ## Values -/

/-- What is built from a part of a tree.  A fault comes with its depth: of several faults
the one nearest to the root is found. -/
abbrev Built (α : Type) := Except (Nat × Fault) α

namespace Built

/-- A fault at the depth of the part itself. -/
def fail (e : Fault) : Built α :=
  .error (0, e)

/-- Two parts of one collection: of two faults the nearer one is found, and of two at the
same depth the first. -/
def both (a : Built α) (b : Built β) : Built (α × β) :=
  match a, b with
  | .ok x, .ok y => .ok (x, y)
  | .error e, .ok _ => .error e
  | .ok _, .error e => .error e
  | .error e, .error f => if f.1 < e.1 then .error f else .error e

/-- A part of a collection as a part of what holds the collection. -/
def deeper (a : Built α) : Built α :=
  a.mapError fun e => (e.1 + 1, e.2)

end Built

/-- Whether a tag is one of a collection. -/
def Tag.isCollection : Tag → Bool
  | .seq => true
  | .map => true
  | .set => true
  | .omap => true
  | .pairs => true
  | _ => false

mutual

/-- The text of a scalar, or of the default value of a mapping. -/
def Node.defaultText? : Node → Option Text
  | .scalar _ text => some text
  | .sequence _ _ => none
  | .mapping _ pairs => defaultOf? pairs

/-- The text of the first default value among pairs. -/
def defaultOf? : List Pair → Option Text
  | [] => none
  | .mk k v :: ps => if k.tag = .value then v.defaultText? else defaultOf? ps

end

/-- The scalar that a collection with the tag of a scalar stands for. -/
def defaultConstant (tag : Tag) (text : Option Text) : Built Value :=
  match text with
  | some t => (constant tag t).mapError fun e => (0, e)
  | none => .fail .malformed

/-- Whether a merge is among the keys of pairs. -/
def hasMerge (pairs : List Pair) : Bool :=
  pairs.any fun (.mk k _) => k.tag = .merge

mutual

/-- The value of a tree without merges. -/
def Node.build : Node → Built Value
  | .scalar tag text =>
    if tag.isCollection then (Built.fail .malformed).deeper
    else (constant tag text).mapError fun e => (0, e)
  | .sequence tag items =>
    match tag with
    | .seq => (buildItems items).deeper.map .list
    | .omap => (buildSingles items).deeper.map .list
    | .pairs => (buildSingles items).deeper.map .list
    | _ => if tag.isCollection then (Built.fail .malformed).deeper else .fail .malformed
  | .mapping tag pairs =>
    match tag with
    | .map =>
      if hasMerge pairs then (Built.fail .malformed).deeper
      else (buildPairs pairs).deeper.map fun es => .dict (Entries.ofList es)
    | .set =>
      if hasMerge pairs then (Built.fail .malformed).deeper
      else (buildPairs pairs).deeper.map fun es => .set (Entries.ofList es).keys
    | _ =>
      if tag.isCollection then (Built.fail .malformed).deeper
      else defaultConstant tag (defaultOf? pairs)

/-- The values of the items of a sequence. -/
def buildItems : List Node → Built (List Value)
  | [] => .ok []
  | n :: ns => (n.build.both (buildItems ns)).map fun (v, vs) => v :: vs

/-- The pairs of a sequence of mappings with one pair each. -/
def buildSingles : List Node → Built (List Value)
  | [] => .ok []
  | .mapping _ [.mk k v] :: ns =>
    ((k.build.both v.build).both (buildSingles ns)).map fun ((x, y), vs) => .tuple [x, y] :: vs
  | _ :: ns => ((Built.fail .malformed : Built Value).both (buildSingles ns)).map Prod.snd

/-- The entries of a mapping.  No collection is a key, and the mark of a default value is
a text there. -/
def buildPairs : List Pair → Built Entries
  | [] => .ok []
  | .mk k v :: ps =>
    let key : Built Value :=
      if k.tag.isCollection then .fail .malformed
      else
        match k with
        | .scalar .value text => .ok (.str text)
        | k => k.build
    ((key.both v.build).both (buildPairs ps)).map fun ((x, y), es) => .mk x y :: es

end

/-- The value of the document of a text, which is the null value if there is none. -/
def load (t : Text) : Except Fault Value :=
  match t.chars? with
  | none => .error .malformed
  | some cs =>
    if cs.all isAllowed then do
      match ← Node.ofTokens? (← tokensOf cs) with
      | some n => n.merged.build.mapError Prod.snd
      | none => .ok .none
    else .error .malformed

end AnnotatedMarkdown.Yaml
