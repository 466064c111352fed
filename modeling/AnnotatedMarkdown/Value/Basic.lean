import AnnotatedMarkdown.Number.Binary64
import AnnotatedMarkdown.Python.Syntax
import AnnotatedMarkdown.Value.Calendar

/-!
# Metadata values

The values that a metadata block holds, that inference adds to it and that are
encoded as expressions.  A mapping is a list of entries in the order of their
insertion; `Entries.put` and `Entries.get?` find a key by the equality of values, in
which numbers of different kinds and truth values can be equal.
-/

namespace AnnotatedMarkdown

mutual

/-- A value.  A deferred value is the text of an expression that the generated module
evaluates when it is asked for; a raw value is an expression with the statements that
have to stand before it.  An object is a value of any other kind, with the name of its
type and the text that quotes it; it counts as true, and two objects with one text are
the same. -/
inductive Value where
  | none
  | bool (b : Bool)
  | str (t : Text)
  | int (n : Int)
  | float (x : Binary64)
  | bytes (bs : List UInt8)
  | date (d : Date)
  | dateTime (d : DateTime)
  | list (items : List Value)
  | tuple (items : List Value)
  | set (items : List Value)
  | dict (entries : List Entry)
  | deferred (source : Text)
  | raw (expression : Python.Expr) (hoisted : List Python.Stmt)
  | object (kind : String) (text : Text)

/-- A key of a mapping with its value. -/
inductive Entry where
  | mk (key value : Value)

end

instance : Inhabited Value := ⟨.none⟩

/-- The key of an entry. -/
def Entry.key : Entry → Value
  | .mk k _ => k

/-- The value of an entry. -/
def Entry.value : Entry → Value
  | .mk _ v => v

/-- The entries of a mapping, in the order of their insertion. -/
abbrev Entries := List Entry

namespace Value

/-! ## Equality of keys -/

/-- The number that a value stands for among numbers, if it is an integer. -/
def integer? : Value → Option Int
  | .bool b => some (if b then 1 else 0)
  | .int n => some n
  | .float x => x.toInt?
  | _ => Option.none

/-- Whether two values are the same scalar. -/
def sameScalar : Value → Value → Bool
  | .none, .none => true
  | .str s, .str t => s == t
  | .bytes a, .bytes b => a == b
  | .date d, .date e => d == e
  | .dateTime d, .dateTime e => d.same e
  | .deferred s, .deferred t => s == t
  | .object k s, .object l t => k == l && s == t
  | .float x, .float y => x.sameValue y
  | a, b =>
    match a.integer?, b.integer? with
    | some m, some n => m == n
    | _, _ => false

mutual

/-- Whether two values are equal as keys. -/
def same : Value → Value → Bool
  | .tuple as, .tuple bs => sameAll as bs
  | a, b => a.sameScalar b

/-- Whether two lists of values are equal as keys. -/
def sameAll : List Value → List Value → Bool
  | [], [] => true
  | a :: as, b :: bs => same a b && sameAll as bs
  | _, _ => false

end

/-- Whether a value counts as true. -/
def isTruthy : Value → Bool
  | .none => false
  | .bool b => b
  | .str t => !t.isEmpty
  | .int n => n != 0
  | .float x => !x.isZero
  | .bytes bs => !bs.isEmpty
  | .list items => !items.isEmpty
  | .tuple items => !items.isEmpty
  | .set items => !items.isEmpty
  | .dict entries => !entries.isEmpty
  | _ => true

/-- The name of the kind of a value. -/
def typeName : Value → String
  | .none => "NoneType"
  | .bool _ => "bool"
  | .str _ => "str"
  | .int _ => "int"
  | .float _ => "float"
  | .bytes _ => "bytes"
  | .date _ => "date"
  | .dateTime _ => "datetime"
  | .list _ => "list"
  | .tuple _ => "tuple"
  | .set _ => "set"
  | .dict _ => "dict"
  | .deferred _ => "Deferred"
  | .raw _ _ => "Raw"
  | .object kind _ => kind

end Value

namespace Entries

/-- The value of a key. -/
def get? (key : Value) : Entries → Option Value
  | [] => none
  | .mk k v :: rest => if k.same key then some v else get? key rest

/-- Sets the value of a key: an equal key keeps its place and its form, a new one comes
last. -/
def put (key value : Value) : Entries → Entries
  | [] => [.mk key value]
  | .mk k v :: rest => if k.same key then .mk k value :: rest else .mk k v :: put key value rest

/-- Sets several keys, one after the other. -/
def putAll (entries : Entries) (updates : Entries) : Entries :=
  updates.foldl (fun result e => put e.key e.value result) entries

/-- The mapping that results from setting keys in an empty one. -/
def ofList (updates : Entries) : Entries :=
  putAll [] updates

/-- The keys. -/
def keys (entries : Entries) : List Value :=
  entries.map Entry.key

end Entries

end AnnotatedMarkdown
