import AnnotatedMarkdown.Yaml.Cursor
import AnnotatedMarkdown.Yaml.Tag
import AnnotatedMarkdown.Yaml.Token

/-!
# Nodes

A document is a tree of nodes: scalars, sequences and mappings, each with a tag.
`Node.ofTokens?` reads the one document of a sequence of tokens.  An alias stands for the
node with its anchor, which is put in its place.
-/

namespace AnnotatedMarkdown.Yaml

mutual

/-- A node of a document. -/
inductive Node where
  | scalar (tag : Tag) (text : Text)
  | sequence (tag : Tag) (items : List Node)
  | mapping (tag : Tag) (pairs : List Pair)

/-- A key of a mapping with its value. -/
inductive Pair where
  | mk (key value : Node)

end

instance : Inhabited Node := ⟨.scalar .null []⟩

mutual

/-- Nodes can be compared. -/
def Node.decEq : (m n : Node) → Decidable (m = n)
  | .scalar s t, .scalar s' t' => decidable_of_iff (s = s' ∧ t = t') (by simp)
  | .sequence s ms, .sequence s' ns =>
    have := decEqNodes ms ns
    decidable_of_iff (s = s' ∧ ms = ns) (by simp)
  | .mapping s ps, .mapping s' qs =>
    have := decEqPairs ps qs
    decidable_of_iff (s = s' ∧ ps = qs) (by simp)
  | .scalar _ _, .sequence _ _ | .scalar _ _, .mapping _ _ | .sequence _ _, .scalar _ _
  | .sequence _ _, .mapping _ _ | .mapping _ _, .scalar _ _ | .mapping _ _, .sequence _ _ =>
    isFalse nofun

/-- Nodes of a sequence can be compared. -/
def decEqNodes : (ms ns : List Node) → Decidable (ms = ns)
  | [], [] => isTrue rfl
  | m :: ms, n :: ns =>
    have := m.decEq n
    have := decEqNodes ms ns
    decidable_of_iff (m = n ∧ ms = ns) (by simp)
  | [], _ :: _ | _ :: _, [] => isFalse nofun

/-- Pairs of a mapping can be compared. -/
def decEqPairs : (ps qs : List Pair) → Decidable (ps = qs)
  | [], [] => isTrue rfl
  | .mk k v :: ps, .mk k' v' :: qs =>
    have := k.decEq k'
    have := v.decEq v'
    have := decEqPairs ps qs
    decidable_of_iff (k = k' ∧ v = v' ∧ ps = qs) (by simp [and_assoc])
  | [], _ :: _ | _ :: _, [] => isFalse nofun

end

instance : DecidableEq Node := Node.decEq

/-- The tag of a node. -/
def Node.tag : Node → Tag
  | .scalar t _ => t
  | .sequence t _ => t
  | .mapping t _ => t

/-- The node that a missing scalar stands for. -/
def Node.absent : Node :=
  .scalar .null []

/-! ## Reading -/

/-- What is known while nodes are read: the tokens that are left, the handles of tags,
and the anchors with their nodes; an anchor whose node is not complete has none. -/
structure Reading where
  tokens : List Token
  handles : List (Text × Text)
  anchors : List (Text × Option Node)

/-- A reader of nodes. -/
def Reader (α : Type) := Reading → Except Fault (α × Reading)

namespace Reader

instance : Monad Reader where
  pure a := fun s => .ok (a, s)
  bind p f := fun s =>
    match p s with
    | .ok (a, s) => f a s
    | .error e => .error e

instance : Inhabited (Reader α) := ⟨fun _ => .error .malformed⟩

/-- Refuses the text. -/
def fail (e : Fault) : Reader α := fun _ => .error e

/-- The next token. -/
def peek : Reader (Option Token) := fun s =>
  .ok (s.tokens.head?, s)

/-- Takes one token. -/
def advance : Reader Unit := fun s =>
  .ok ((), { s with tokens := s.tokens.drop 1 })

/-- Whether the next token is a given one, which is taken then. -/
def accept (t : Token) : Reader Bool := do
  if (← peek) = some t then
    advance
    return true
  else return false

/-- Takes a given token. -/
def expect (t : Token) : Reader Unit := do
  if ← accept t then return () else fail .malformed

/-- Whether the next token is one of several, or there is none. -/
def seesOneOf (ts : List Token) : Reader Bool := do
  match ← peek with
  | some t => return ts.contains t
  | none => return false

/-- The name that a tag stands for. -/
def tagName (handle : Option Text) (suffix : Text) : Reader Text := fun s =>
  match handle with
  | none => .ok (suffix, s)
  | some h =>
    match s.handles.find? fun e => e.1 == h with
    | some (_, lead) => .ok (lead ++ suffix, s)
    | none => .error .malformed

/-- The anchor and the tag in front of a node, in either order. -/
def properties : Reader (Option Text × Option Text) := do
  match ← peek with
  | some (.anchor a) =>
    advance
    match ← peek with
    | some (.tag handle suffix) =>
      advance
      return (some a, some (← tagName handle suffix))
    | _ => return (some a, none)
  | some (.tag handle suffix) =>
    advance
    match ← peek with
    | some (.anchor a) =>
      advance
      return (some a, some (← tagName handle suffix))
    | _ => return (none, some (← tagName handle suffix))
  | _ => return (none, none)

/-- Notes an anchor whose node follows; no two nodes have the same one. -/
def openAnchor (anchor : Option Text) : Reader Unit := fun s =>
  match anchor with
  | none => .ok ((), s)
  | some a =>
    if s.anchors.any fun e => e.1 == a then .error .malformed
    else .ok ((), { s with anchors := (a, none) :: s.anchors })

/-- Notes the node of an anchor. -/
def closeAnchor (anchor : Option Text) (n : Node) : Reader Node := fun s =>
  match anchor with
  | none => .ok (n, s)
  | some a => .ok (n, { s with anchors := (a, some n) :: s.anchors.filter fun e => e.1 != a })

/-- The node with an anchor.  A node within itself cannot be a part of metadata. -/
def anchored (a : Text) : Reader Node := fun s =>
  match s.anchors.find? fun e => e.1 == a with
  | some (_, some n) => .ok (n, s)
  | some (_, none) => .error (.defect .selfReference)
  | none => .error .malformed

/-- The tag of a collection. -/
def collectionTag (name : Option Text) (implied : Tag) : Tag :=
  match name with
  | none => implied
  | some t => if t = Text.ofString "!" then implied else .ofName t

/-- The tag of a scalar: a plain one without a tag, and any one with the mark of no
particular tag, has the tag that its text implies. -/
def scalarTag (name : Option Text) (isPlain : Bool) (text : Text) : Tag :=
  match name with
  | none => if isPlain then .ofPlain text else .str
  | some t => if t = Text.ofString "!" then .ofPlain text else .ofName t

/-! ## Nodes -/

/-- Where a node stands: within flow collections, in a block, or in a block mapping, where
a sequence need not be indented. -/
inductive Place where
  | flow
  | block
  | mappingEntry
  deriving DecidableEq

/-- A node, unless one of several tokens follows in its place. -/
def nodeUnless (ends : List Token) (node : Reader Node) : Reader Node := do
  if ← seesOneOf ends then return .absent else node

/-- The items of a block sequence; each has a mark in front of it. -/
def blockItems (node : Reader Node) (ends : List Token) : (items : Nat) → Reader (List Node)
  | 0 => fail .malformed
  | items + 1 => do
    if ← accept .blockEntry then
      let n ← nodeUnless ends node
      return n :: (← blockItems node ends items)
    else return []

/-- The pairs of a block mapping. -/
def blockPairs (node : Reader Node) : (pairs : Nat) → Reader (List Pair)
  | 0 => fail .malformed
  | pairs + 1 => do
    let ends : List Token := [.key, .value, .blockEnd]
    if ← accept .key then
      let k ← nodeUnless ends node
      let v ← if ← accept .value then nodeUnless ends node else pure .absent
      return .mk k v :: (← blockPairs node pairs)
    else if (← peek) = some .value then
      advance
      let v ← nodeUnless ends node
      return .mk .absent v :: (← blockPairs node pairs)
    else
      expect .blockEnd
      return []

/-- The value of a pair in a flow collection with a given end. -/
def flowValue (node : Reader Node) (close : Token) : Reader Node := do
  if ← accept .value then nodeUnless [.flowEntry, close] node else pure .absent

/-- A marked key of a flow collection with a given end, and its value. -/
def flowPair (node : Reader Node) (close : Token) : Reader Pair := do
  let k ← nodeUnless [.value, .flowEntry, close] node
  return .mk k (← flowValue node close)

/-- The items of a flow sequence up to its end; a pair is a mapping of its own. -/
def flowItems (node : Reader Node) : (items : Nat) → (isFirst : Bool) → Reader (List Node)
  | 0, _ => fail .malformed
  | items + 1, isFirst => do
    if ← accept .flowSequenceEnd then return []
    else
      if !isFirst then expect .flowEntry
      if ← accept .key then
        let pair ← flowPair node .flowSequenceEnd
        return .mapping .map [pair] :: (← flowItems node items false)
      else if ← accept .flowSequenceEnd then return []
      else
        let n ← node
        return n :: (← flowItems node items false)

/-- The pairs of a flow mapping up to its end; a node without a value has none. -/
def flowPairs (node : Reader Node) : (pairs : Nat) → (isFirst : Bool) → Reader (List Pair)
  | 0, _ => fail .malformed
  | pairs + 1, isFirst => do
    if ← accept .flowMappingEnd then return []
    else
      if !isFirst then expect .flowEntry
      if ← accept .key then
        let pair ← flowPair node .flowMappingEnd
        return pair :: (← flowPairs node pairs false)
      else if ← accept .flowMappingEnd then return []
      else
        let n ← node
        return .mk n .absent :: (← flowPairs node pairs false)

/-- The content of a node after its anchor and its tag.  `inner` reads the nodes within
it. -/
def content (inner : Place → Reader Node) (count : Nat) (place : Place)
    (anchor name : Option Text) : Reader Node := do
  let inBlock := place ≠ .flow
  match ← peek with
  | some (.scalar text isPlain) =>
    advance
    return .scalar (scalarTag name isPlain text) text
  | some .flowSequenceStart =>
    advance
    return .sequence (collectionTag name .seq) (← flowItems (inner .flow) count true)
  | some .flowMappingStart =>
    advance
    return .mapping (collectionTag name .map) (← flowPairs (inner .flow) count true)
  | some .blockEntry =>
    if place = .mappingEntry then
      let ends : List Token := [.blockEntry, .key, .value, .blockEnd]
      return .sequence (collectionTag name .seq) (← blockItems (inner .block) ends count)
    else if anchor.isSome || name.isSome then return .scalar (scalarTag name true []) []
    else fail .malformed
  | some .sequenceStart =>
    if inBlock then
      advance
      let items ← blockItems (inner .block) [.blockEntry, .blockEnd] count
      expect .blockEnd
      return .sequence (collectionTag name .seq) items
    else if anchor.isSome || name.isSome then return .scalar (scalarTag name true []) []
    else fail .malformed
  | some .mappingStart =>
    if inBlock then
      advance
      return .mapping (collectionTag name .map) (← blockPairs (inner .mappingEntry) count)
    else if anchor.isSome || name.isSome then return .scalar (scalarTag name true []) []
    else fail .malformed
  | _ =>
    if anchor.isSome || name.isSome then return .scalar (scalarTag name true []) []
    else fail .malformed

/-- A node at a place, with at most a number of levels of nodes within it. -/
def node (count : Nat) : (levels : Nat) → Place → Reader Node
  | 0, _ => fail .malformed
  | levels + 1, place => do
    match ← peek with
    | some (.alias a) =>
      advance
      anchored a
    | _ =>
      let (anchor, name) ← properties
      openAnchor anchor
      closeAnchor anchor (← content (node count levels) count place anchor name)

/-! ## Documents -/

/-- Takes the directives in front of a document.  There is one version at most, its major
number is 1, and no handle is given twice. -/
def directives : (steps : Nat) → (hasVersion : Bool) → (handles : List (Text × Text)) →
    Reader (List (Text × Text))
  | 0, _, handles => pure handles
  | steps + 1, hasVersion, handles => do
    match ← peek with
    | some (.directive d) =>
      advance
      match d with
      | .version major =>
        if hasVersion || major ≠ 1 then fail .malformed else directives steps true handles
      | .handle name lead =>
        if handles.any fun h => h.1 == name then fail .malformed
        else directives steps hasVersion ((name, lead) :: handles)
      | .ignored => directives steps hasVersion handles
    | _ => return handles

/-- The handles that every document has. -/
def usualHandles : List (Text × Text) :=
  [("!", "!"), ("!!", Tag.nameLead)]

/-- Skips the marks of the end of a document. -/
def skipDocumentEnds : (steps : Nat) → Reader Unit
  | 0 => pure ()
  | steps + 1 => do
    if ← accept .documentEnd then skipDocumentEnds steps else pure ()

/-- The document that a stream of tokens holds, if it holds one.  It may hold no more
than one. -/
def document (count : Nat) : Reader (Option Node) := do
  let found ←
    match ← peek with
    | none => pure none
    | some (.directive _) | some .documentStart => do
      let handles ← directives count false []
      expect .documentStart
      (fun s => .ok ((), { s with handles := handles ++ usualHandles }) : Reader Unit)
      match ← peek with
      | none | some (.directive _) | some .documentStart | some .documentEnd => pure (some .absent)
      | _ => some <$> node count count .block
    | _ => some <$> node count count .block
  skipDocumentEnds count
  match ← peek with
  | none => return found
  | some _ => fail .malformed

end Reader

/-- The document of a sequence of tokens. -/
def Node.ofTokens? (tokens : List Token) : Except Fault (Option Node) :=
  (Reader.document (tokens.length + 1) ⟨tokens, Reader.usualHandles, []⟩).map Prod.fst

end AnnotatedMarkdown.Yaml

