import AnnotatedMarkdown.Generation.Reference

/-!
# Encoding values as expressions

`encode` makes an expression of a value.  An `Encoding` is its outcome together with
the statements that raw values put in front of the expression: they are collected in the
order of the values that bring them, up to a failure if there is one.
-/

namespace AnnotatedMarkdown.Generation

open Python

/-- An outcome and the statements collected on the way to it. -/
structure Encoding (α : Type) where
  outcome : Except Failure α
  hoisted : List Stmt

instance : Monad Encoding where
  pure a := ⟨.ok a, []⟩
  bind x f :=
    match x.outcome with
    | .ok a => ⟨(f a).outcome, x.hoisted ++ (f a).hoisted⟩
    | .error e => ⟨.error e, x.hoisted⟩

/-- An outcome that collects nothing. -/
def Encoding.lift (outcome : Except Failure α) : Encoding α :=
  ⟨outcome, []⟩

/-- A text as a literal. -/
def textLiteral (t : Text) : Expr :=
  .constant (.string t false)

/-- An integer as a literal, with a minus sign in front if it is negative. -/
def intLiteral (n : Int) : Expr :=
  if n < 0 then .unary .minus (.constant (.int n.natAbs)) else .constant (.int n.natAbs)

/-- A number as a literal, with a minus sign in front if it is less than zero. -/
def floatLiteral (x : Binary64) : Expr :=
  if x.isNegative && !x.isZero then .unary .minus (.constant (.float x.neg))
  else .constant (.float x)

/-- The text of a key. -/
def keyText (key : Value) : Except Failure Text :=
  match key.plain with
  | some t => .ok t
  | none => .error (.defect .tooManyDigits)

/-- An expression as a function without parameters. -/
def lazy (e : Expr) : Expr :=
  .lambda [] e

mutual

/-- The expression of a value. -/
def encode : Value → Encoding Expr
  | .raw expression hoisted => ⟨.ok expression, hoisted⟩
  | .deferred source => .lift ((parseDeferred source).map lazy)
  | .list items => do return .list (← encodeAll items)
  | .tuple items => do return .list (← encodeAll items)
  | .bool b => pure (.constant (if b then .true else .false))
  | .str t => pure (textLiteral t)
  | .int n => pure (intLiteral n)
  | .float x => pure (floatLiteral x)
  | .dict entries => do return .dict (← encodeEntries entries)
  | v => .lift (.error (.unsupported v))

/-- The expressions of values. -/
def encodeAll : List Value → Encoding (List Expr)
  | [] => pure []
  | v :: vs => do
    let e ← encode v
    return e :: (← encodeAll vs)

/-- The items of a mapping. -/
def encodeEntries : List Entry → Encoding (List DictItem)
  | [] => pure []
  | .mk key value :: entries => do
    let k ← .lift (keyText key)
    let v ← encode value
    return .pair (textLiteral k) v :: (← encodeEntries entries)

end

/-- The expression of a mapping. -/
def encodeMapping (entries : Entries) : Encoding Expr := do
  return .dict (← encodeEntries entries)

/-- Encodes several values one after the other; with each outcome stand all statements
collected so far. -/
def encodeTrace (hoisted : List Stmt) : List Value → List (Except Failure Expr × List Stmt)
  | [] => []
  | v :: vs =>
    let e := encode v
    (e.outcome, hoisted ++ e.hoisted) :: encodeTrace (hoisted ++ e.hoisted) vs

end AnnotatedMarkdown.Generation
