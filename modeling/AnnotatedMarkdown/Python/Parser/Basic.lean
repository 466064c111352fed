import AnnotatedMarkdown.Python.Syntax
import AnnotatedMarkdown.Python.Token
import AnnotatedMarkdown.Unicode.Normalization

/-!
# Parsers of token lists

A parser takes tokens from the front of a list.  It may not match, and then an
alternative is tried, or it may find what no alternative can mend.  `many` repeats
a parser as long as it matches; the length of the list bounds the repetition.
-/

namespace AnnotatedMarkdown.Python

/-- Why a parser yields nothing: another alternative may still match, or none may. -/
inductive Refusal where
  | mismatch
  | refused
  deriving DecidableEq

/-- A parser of token lists. -/
def Parser (α : Type) := List Token → Except Refusal (α × List Token)

namespace Parser

instance : Monad Parser where
  pure a := fun tokens => .ok (a, tokens)
  bind p f := fun tokens =>
    match p tokens with
    | .ok (a, rest) => f a rest
    | .error e => .error e

/-- The first parser, or the second one if the first does not match. -/
def orElse (p : Parser α) (q : Unit → Parser α) : Parser α := fun tokens =>
  match p tokens with
  | .error .mismatch => q () tokens
  | outcome => outcome

/-- A parser that never matches. -/
def mismatch : Parser α := fun _ => .error .mismatch

/-- A parser that no alternative can replace. -/
def refuse : Parser α := fun _ => .error .refused

instance : Alternative Parser where
  failure := mismatch
  orElse := orElse

instance : Inhabited (Parser α) := ⟨mismatch⟩

/-- The next lexeme. -/
def peek : Parser (Option Lexeme) := fun tokens =>
  .ok (tokens.head?.map Token.lexeme, tokens)

/-- The lexeme after the next one. -/
def peekSecond : Parser (Option Lexeme) := fun tokens =>
  .ok ((tokens.drop 1).head?.map Token.lexeme, tokens)

/-- Takes one token. -/
def advance : Parser Unit := fun tokens =>
  match tokens with
  | [] => .error .mismatch
  | _ :: rest => .ok ((), rest)

/-- Takes a given lexeme. -/
def expect (x : Lexeme) : Parser Unit := fun tokens =>
  match tokens with
  | [] => .error .mismatch
  | t :: rest => if t.lexeme = x then .ok ((), rest) else .error .mismatch

/-- Takes a given operator. -/
def op (o : Op) : Parser Unit := expect (.op o)

/-- Takes a given reserved word. -/
def word (w : Word) : Parser Unit := expect (.word w)

/-- Whether the next lexeme is a given one, which is taken then. -/
def accept (x : Lexeme) : Parser Bool := fun tokens =>
  match tokens with
  | [] => .ok (false, [])
  | t :: rest => if t.lexeme = x then .ok (true, rest) else .ok (false, t :: rest)

/-- Whether the next lexeme is a given one. -/
def sees (x : Lexeme) : Parser Bool := do
  return (← peek) == some x

/-- Goes on only if a condition holds. -/
def ensure (b : Bool) : Parser Unit :=
  if b then pure () else mismatch

/-- The value of an option, or no match. -/
def fromOption : Option α → Parser α
  | some a => pure a
  | none => mismatch

/-- What a parser yields, if it matches. -/
def maybe (p : Parser α) : Parser (Option α) :=
  orElse (do return some (← p)) fun _ => pure none

/-- What a parser yields after a lexeme, if the lexeme comes next. -/
def after? (x : Lexeme) (p : Parser α) : Parser (Option α) := do
  if ← accept x then
    return some (← p)
  else
    return none

/-- Repeats a parser while it matches, for at most a number of times. -/
def manyUpTo (p : Parser α) : (times : Nat) → Parser (List α)
  | 0 => pure []
  | times + 1 => fun tokens =>
    match p tokens with
    | .ok (a, rest) =>
      match manyUpTo p times rest with
      | .ok (as, rest) => .ok (a :: as, rest)
      | .error e => .error e
    | .error .mismatch => .ok ([], tokens)
    | .error .refused => .error .refused

/-- Repeats a parser while it matches. -/
def many (p : Parser α) : Parser (List α) := fun tokens =>
  manyUpTo p (tokens.length + 1) tokens

/-- Repeats a parser while it matches, which it must do once. -/
def many1 (p : Parser α) : Parser (List α) := do
  let a ← p
  let as ← many p
  return a :: as

/-- Items with commas between them. -/
def commaList (p : Parser α) : Parser (List α) := do
  let a ← p
  let as ← many (do op .comma; p)
  return a :: as

/-- Items with commas between them and possibly one after the last, which the flag
tells. -/
def commaListTrailing (p : Parser α) : Parser (List α × Bool) := do
  let as ← commaList p
  let trailing ← accept (.op .comma)
  return (as, trailing)

/-- A name as the syntax tree holds it. -/
def identifier (spelling : List Char) : String :=
  String.ofList (Unicode.normalizeIdentifier spelling)

/-- Takes a name. -/
def name : Parser String := fun tokens =>
  match tokens with
  | ⟨.name spelling, _⟩ :: rest => .ok (identifier spelling, rest)
  | _ => .error .mismatch

end Parser

/-- What an expression list stands for: one expression without a comma stands for
itself. -/
def tupleOf (elements : List Expr) (trailing : Bool) : Expr :=
  match elements with
  | [e] => if trailing then .tuple [e] else e
  | _ => .tuple elements

end AnnotatedMarkdown.Python
