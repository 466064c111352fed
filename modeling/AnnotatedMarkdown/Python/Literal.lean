import AnnotatedMarkdown.Python.Syntax
import AnnotatedMarkdown.Unicode.Name

/-!
# Number and string literals of Python

`numberConstant?` gives the value of a number from its spelling.  A string token is
split into its marks and its body by `StringToken.ofSpelling`; `unescape` and
`unescapeBytes` replace the escape sequences of a body by what they stand for.
-/

namespace AnnotatedMarkdown.Python

open Unicode

/-! ## Numbers -/

/-- The number that digits of a base stand for. -/
def digitsValue (base : Nat) (digits : List Char) : Nat :=
  digits.foldl (fun n c => base * n + (hexDigit? c).getD 0) 0

/-- The most decimal digits that an integer may be read from or printed with. -/
def maxDecimalDigits : Nat := 4300

/-- The value of an integer; one with too many decimal digits has none. -/
def integerConstant? (digits : List Char) : Option Constant :=
  match digits with
  | '0' :: x :: rest =>
    if x == 'x' || x == 'X' then some (.int (digitsValue 16 rest))
    else if x == 'o' || x == 'O' then some (.int (digitsValue 8 rest))
    else if x == 'b' || x == 'B' then some (.int (digitsValue 2 rest))
    else if digits.length ≤ maxDecimalDigits then some (.int (digitsValue 10 digits))
    else none
  | _ =>
    if digits.length ≤ maxDecimalDigits then some (.int (digitsValue 10 digits)) else none

/-- The integer that an exponent with an optional sign stands for. -/
def exponentValue (cs : List Char) : Int :=
  match cs with
  | '-' :: digits => -(digitsValue 10 digits : Int)
  | '+' :: digits => digitsValue 10 digits
  | digits => digitsValue 10 digits

/-- The number that a decimal fraction with an optional exponent stands for. -/
def decimalValue (cs : List Char) : Binary64 :=
  let isMark (c : Char) : Bool := c == 'e' || c == 'E'
  let mantissa := cs.takeWhile fun c => !isMark c
  let exponent := exponentValue ((cs.dropWhile fun c => !isMark c).drop 1)
  let whole := mantissa.takeWhile (· != '.')
  let fraction := (mantissa.dropWhile (· != '.')).drop 1
  .ofDecimal false (digitsValue 10 (whole ++ fraction)) (exponent - fraction.length)

/-- Whether a spelling without a base mark has a point or an exponent. -/
def isFraction (cs : List Char) : Bool :=
  cs.any fun c => c == '.' || c == 'e' || c == 'E'

/-- Whether a spelling starts with the mark of a base. -/
def hasBase : List Char → Bool
  | '0' :: x :: _ => ['x', 'X', 'o', 'O', 'b', 'B'].contains x
  | _ => false

/-- The value of a number from its spelling. -/
def numberConstant? (spelling : List Char) : Option Constant :=
  let cs := spelling.filter (· != '_')
  if hasBase cs then integerConstant? cs
  else
    match cs.getLast? with
    | some c =>
      if c == 'j' || c == 'J' then some (.imaginary (decimalValue cs.dropLast))
      else if isFraction cs then some (.float (decimalValue cs))
      else integerConstant? cs
    | none => none

/-! ## Escape sequences -/

/-- How far an escape sequence has been read; a name is kept backwards. -/
inductive Escape where
  | none
  | started
  | hex (missing value : Nat)
  | octal (missing value : Nat)
  | named (spelling : Option (List Char))

/-- The character of an escape sequence of one letter. -/
def simpleEscape? : Char → Option Char
  | '\\' => some '\\'
  | '\'' => some '\''
  | '"' => some '"'
  | 'b' => some '\x08'
  | 'f' => some '\x0c'
  | 't' => some '\t'
  | 'n' => some '\n'
  | 'r' => some '\r'
  | 'v' => some '\x0b'
  | 'a' => some '\x07'
  | _ => Option.none

/-- The value of an octal digit. -/
def octalDigit? (c : Char) : Option Nat :=
  if '0' ≤ c ∧ c ≤ '7' then some (c.toNat - 48) else Option.none

/-- What the characters of a string literal stand for.  A sequence that is none of
the known ones stands for itself; one that is cut short, or that names no code
point or character, is refused. -/
def unescape : Escape → List Char → Option Text
  | .none, [] => some []
  | .none, c :: cs =>
    if c = '\\' then unescape .started cs else (unescape .none cs).map (.scalar c :: ·)
  | .started, [] => some [.scalar '\\']
  | .started, c :: cs =>
    if c = '\n' then unescape .none cs
    else if c = 'x' then unescape (.hex 2 0) cs
    else if c = 'u' then unescape (.hex 4 0) cs
    else if c = 'U' then unescape (.hex 8 0) cs
    else if c = 'N' then unescape (.named Option.none) cs
    else
      match simpleEscape? c, octalDigit? c with
      | some d, _ => (unescape .none cs).map (.scalar d :: ·)
      | Option.none, some d => unescape (.octal 2 d) cs
      | Option.none, Option.none => (unescape .none cs).map fun t => .scalar '\\' :: .scalar c :: t
  | .hex missing value, cs =>
    match cs with
    | [] => Option.none
    | c :: cs =>
      match hexDigit? c with
      | Option.none => Option.none
      | some d =>
        if missing ≤ 1 then
          match CodePoint.ofNat? (16 * value + d) with
          | some p => (unescape .none cs).map (p :: ·)
          | Option.none => Option.none
        else unescape (.hex (missing - 1) (16 * value + d)) cs
  | .octal missing value, cs =>
    match cs with
    | [] => some (CodePoint.ofNat? value).toList
    | c :: cs =>
      match missing, octalDigit? c with
      | missing + 1, some d => unescape (.octal missing (8 * value + d)) cs
      | _, _ =>
        if c = '\\' then (unescape .started cs).map ((CodePoint.ofNat? value).toList ++ ·)
        else (unescape .none cs).map fun t => (CodePoint.ofNat? value).toList ++ .scalar c :: t
  | .named _, [] => Option.none
  | .named Option.none, c :: cs =>
    if c = '{' then unescape (.named (some [])) cs else Option.none
  | .named (some spelling), c :: cs =>
    if c = '}' then
      match (numberOfName? spelling.reverse).bind CodePoint.ofNat? with
      | some p => (unescape .none cs).map (p :: ·)
      | Option.none => Option.none
    else unescape (.named (some (c :: spelling))) cs

/-- What the characters of a bytes literal stand for. -/
def unescapeBytes : Escape → List Char → Option (List UInt8)
  | .none, [] => some []
  | .none, c :: cs =>
    if c = '\\' then unescapeBytes .started cs
    else (unescapeBytes .none cs).map (c.toNat.toUInt8 :: ·)
  | .started, [] => Option.none
  | .started, c :: cs =>
    if c = '\n' then unescapeBytes .none cs
    else if c = 'x' then unescapeBytes (.hex 2 0) cs
    else
      match simpleEscape? c, octalDigit? c with
      | some d, _ => (unescapeBytes .none cs).map (d.toNat.toUInt8 :: ·)
      | Option.none, some d => unescapeBytes (.octal 2 d) cs
      | Option.none, Option.none =>
        (unescapeBytes .none cs).map fun bs => 92 :: c.toNat.toUInt8 :: bs
  | .hex missing value, cs =>
    match cs with
    | [] => Option.none
    | c :: cs =>
      match hexDigit? c with
      | Option.none => Option.none
      | some d =>
        if missing ≤ 1 then (unescapeBytes .none cs).map ((16 * value + d).toUInt8 :: ·)
        else unescapeBytes (.hex (missing - 1) (16 * value + d)) cs
  | .octal missing value, cs =>
    match cs with
    | [] => some [value.toUInt8]
    | c :: cs =>
      match missing, octalDigit? c with
      | missing + 1, some d => unescapeBytes (.octal missing (8 * value + d)) cs
      | _, _ =>
        if c = '\\' then (unescapeBytes .started cs).map (value.toUInt8 :: ·)
        else (unescapeBytes .none cs).map fun bs => value.toUInt8 :: c.toNat.toUInt8 :: bs
  | .named _, _ => Option.none

/-! ## String tokens -/

/-- A string token: its marks and what stands between its quotes. -/
structure StringToken where
  isBytes : Bool
  isRaw : Bool
  isFormat : Bool
  body : List Char

/-- The characters between the quotes of a literal. -/
def unquote : List Char → List Char
  | q :: q' :: q'' :: cs =>
    if q == q' && q == q'' && 3 ≤ cs.length then cs.take (cs.length - 3)
    else (q' :: q'' :: cs).dropLast
  | cs => (cs.drop 1).dropLast

/-- Splits the spelling of a string token. -/
def StringToken.ofSpelling (spelling : List Char) : StringToken :=
  let isQuote (c : Char) : Bool := c == '"' || c == '\''
  let marks := (spelling.takeWhile fun c => !isQuote c).map Char.toLower
  { isBytes := marks.contains 'b'
    isRaw := marks.contains 'r'
    isFormat := marks.contains 'f'
    body := unquote (spelling.dropWhile fun c => !isQuote c) }

/-- The text of a string body. -/
def stringText? (isRaw : Bool) (body : List Char) : Option Text :=
  if isRaw then some (.ofChars body) else unescape .none body

/-- The bytes of a bytes body, which must be ASCII. -/
def stringBytes? (isRaw : Bool) (body : List Char) : Option (List UInt8) :=
  if body.all fun c => c.toNat < 128 then
    if isRaw then some (body.map fun c => c.toNat.toUInt8) else unescapeBytes .none body
  else none

end AnnotatedMarkdown.Python
