import AnnotatedMarkdown.Python.FormatString
import AnnotatedMarkdown.Python.Recognition.Rule

/-!
# Faults of literals

Numbers and string literals are tokens whose spelling can still be at fault.
`numberFault?` and `literalFault?` tell where the fault of a literal is reported.
-/

namespace AnnotatedMarkdown.Python.Recognition

/-- The fault of a number: low lines between digits came with a version, and integers
have a limit of length. -/
def numberFault? (version line : Nat) (spelling : List Char) : Option Site :=
  if version < 6 && spelling.contains '_' then some .lastToken
  else if (numberConstant? spelling).isNone then some (.line line)
  else none

/-- The fault of a format string that starts on a line. -/
def formatFault? (version : Nat) (embedded : (line : Nat) → List Char → Option Nat)
    (line : Nat) (t : StringToken) : Option Site :=
  let compile (source : List Char) : Option Expr :=
    if (embedded line source).isSome then none else some (.tuple [])
  match formatPieces ⟨compile, t.isRaw, false, 8 ≤ version⟩ t.body with
  | .ok _ => none
  | .error .malformed => some .lastToken
  | .error (.expression source rest) =>
    let before := t.body.count '\n' - (source ++ rest).count '\n'
    match embedded (line + before) source with
    | some n => some (.line n)
    | none => some .lastToken

/-- The fault of one string literal. -/
def stringFault? (version : Nat) (embedded : (line : Nat) → List Char → Option Nat)
    (line : Nat) (t : StringToken) : Option Site :=
  if t.isFormat && version < 6 then some .lastToken
  else if t.isFormat then formatFault? version embedded line t
  else if t.isBytes then
    if t.body.any fun c => 128 ≤ c.toNat then some (.line line)
    else if (stringBytes? t.isRaw t.body).isNone then some .lastToken
    else none
  else if (stringText? t.isRaw t.body).isNone then some .lastToken
  else none

/-- The first fault of string literals in a row, which must be all of bytes or all of
text. -/
def literalFault? (version : Nat) (embedded : (line : Nat) → List Char → Option Nat)
    (literals : List Node) : Option Site :=
  let rec go (kind : Option Bool) : List Node → Option Site
    | .string line spelling :: rest =>
      let t := StringToken.ofSpelling spelling
      match stringFault? version embedded line t with
      | some site => some site
      | none =>
        if kind.any (· != t.isBytes) then some .lastToken else go (some t.isBytes) rest
    | _ :: rest => go kind rest
    | [] => none
  go none literals

end AnnotatedMarkdown.Python.Recognition
