import AnnotatedMarkdown.Python.Token
import AnnotatedMarkdown.Unicode.Character

/-!
# Lexical analysis of Python source

`lex` splits source characters into tokens.  Line breaks become `newline` tokens
outside brackets, and the indentation of lines becomes `indent` and `dedent`
tokens.  The analysis stops at the first fault; the tokens before it are kept,
because a grammatical error among them can come first.

The parts of the analysis are functions on the remaining characters: `digitRun`
and `number?` for numbers, `quotedString?` for string literals, `measure` for the white
space at the start of a line, and `scan` for the whole.
-/

namespace AnnotatedMarkdown.Python

open Unicode

/-! ## Faults -/

/-- The causes for which lexical analysis stops. -/
inductive LexFault where
  | invalidCharacter
  | unterminatedString
  | invalidNumber
  | unmatchedBracket
  | mismatchedBracket
  | tooManyBrackets
  | unmatchedDedent
  | mixedTabs
  | tooManyIndents
  | strayContinuation
  | endInContinuation
  | endInBracket
  deriving DecidableEq

/-- A fault and its line. -/
structure LexError where
  fault : LexFault
  line : Nat
  deriving DecidableEq

/-- The tokens before the first fault, and the fault. -/
structure Lexed where
  tokens : List Token
  error : Option LexError

/-! ## Line breaks -/

/-- Line breaks of any style as line feeds. -/
def unifyLineBreaks : List Char → List Char
  | [] => []
  | '\r' :: '\n' :: cs => '\n' :: unifyLineBreaks cs
  | '\r' :: cs => '\n' :: unifyLineBreaks cs
  | c :: cs => c :: unifyLineBreaks cs

/-- Whether a text ends in a line break that needs no further line feed: a carriage
return followed by a line feed does not count. -/
def endsLine : List Char → Bool
  | [] => false
  | ['\n'] => true
  | ['\r'] => true
  | '\r' :: '\n' :: cs => endsLine cs
  | _ :: cs => endsLine cs

/-- The source of a module: unified line breaks, and one at the end. -/
def moduleSource (cs : List Char) : List Char :=
  unifyLineBreaks cs ++ (if endsLine cs then [] else ['\n'])

/-! ## Words -/

/-- Whether a character belongs to a word; every character beyond ASCII does at
this stage. -/
def isWordChar (c : Char) : Bool :=
  c.isAlphanum || c == '_' || !isAscii c

/-- Whether a character starts a word. -/
def isWordStart (c : Char) : Bool :=
  isWordChar c && !c.isDigit

/-- Whether the characters start with a word as a whole. -/
def startsWithWord (word : List Char) (cs : List Char) : Bool :=
  word.isPrefixOf cs &&
    match cs.drop word.length with
    | [] => true
    | c :: _ => !isWordChar c

/-! ## Numbers -/

/-- The digits at the front; single low lines may stand between them. -/
def digitRun (isDigit : Char → Bool) : List Char → Option (List Char × List Char)
  | [] => some ([], [])
  | ['_'] => none
  | '_' :: d :: cs =>
    if isDigit d then (digitRun isDigit (d :: cs)).map fun (ds, rest) => ('_' :: ds, rest)
    else none
  | c :: cs =>
    if isDigit c then (digitRun isDigit cs).map fun (ds, rest) => (c :: ds, rest)
    else some ([], c :: cs)

/-- Whether a number may end before the given characters: no word may follow it
directly, except for the words that follow an operand. -/
def numberMayEnd (cs : List Char) : Bool :=
  match cs with
  | [] => true
  | c :: _ =>
    !isWordChar c
      || startsWithWord ['a', 'n', 'd'] cs || startsWithWord ['e', 'l', 's', 'e'] cs
      || startsWithWord ['f', 'o', 'r'] cs || startsWithWord ['o', 'r'] cs
      || startsWithWord ['n', 'o', 't'] cs || ['i', 'f'].isPrefixOf cs
      || ['i', 'n'].isPrefixOf cs || ['i', 's'].isPrefixOf cs

/-- The digits of a literal with a base, after the letter of the base. -/
def basedNumber? (isDigit : Char → Bool) (cs : List Char) : Option (List Char × List Char) :=
  match digitRun isDigit cs with
  | some (d :: ds, rest) =>
    match rest with
    | c :: _ => if c.isDigit || !numberMayEnd rest then none else some (d :: ds, rest)
    | [] => some (d :: ds, rest)
  | _ => none

/-- The imaginary mark of a number and the check of its end. -/
def numberSuffix? (taken : List Char) (cs : List Char) : Option (List Char × List Char) :=
  match cs with
  | c :: rest =>
    if c == 'j' || c == 'J' then
      if numberMayEnd rest then some (taken ++ [c], rest) else none
    else if numberMayEnd cs then some (taken, cs) else none
  | [] => some (taken, [])

/-- The exponent of a number; a letter `e` without digits is left in place. -/
def numberExponent? (taken : List Char) (cs : List Char) : Option (List Char × List Char) :=
  match cs with
  | e :: rest =>
    if e == 'e' || e == 'E' then
      match rest with
      | d :: more =>
        if d.isDigit then
          (digitRun Char.isDigit rest).bind fun (ds, rest) => numberSuffix? (taken ++ e :: ds) rest
        else if d == '+' || d == '-' then
          match more with
          | c :: _ =>
            if c.isDigit then
              (digitRun Char.isDigit more).bind fun (ds, rest) =>
                numberSuffix? (taken ++ e :: d :: ds) rest
            else none
          | [] => none
        else if numberMayEnd cs then some (taken, cs) else none
      | [] => if numberMayEnd cs then some (taken, cs) else none
    else numberSuffix? taken cs
  | [] => some (taken, [])

/-- The fractional part of a number, after its point. -/
def numberFraction? (taken : List Char) (cs : List Char) : Option (List Char × List Char) :=
  match cs with
  | d :: _ =>
    if d.isDigit then
      (digitRun Char.isDigit cs).bind fun (ds, rest) => numberExponent? (taken ++ ds) rest
    else numberExponent? taken cs
  | [] => some (taken, [])

/-- A decimal number: an integer with a leading zero must be zero. -/
def decimalNumber? (cs : List Char) : Option (List Char × List Char) :=
  (digitRun Char.isDigit cs).bind fun (whole, rest) =>
    match rest with
    | '.' :: more => numberFraction? (whole ++ ['.']) more
    | _ =>
      let marked :=
        match rest with
        | c :: _ => c == 'e' || c == 'E' || c == 'j' || c == 'J'
        | [] => false
      if !marked && whole.head? == some '0' && whole.any (fun c => c != '0' && c != '_') then none
      else numberExponent? whole rest

/-- A number at the front of the characters. -/
def number? (cs : List Char) : Option (List Char × List Char) :=
  match cs with
  | '.' :: rest => numberFraction? ['.'] rest
  | '0' :: x :: rest =>
    let based (isDigit : Char → Bool) : Option (List Char × List Char) :=
      (basedNumber? isDigit rest).map fun (ds, rest) => ('0' :: x :: ds, rest)
    if x == 'x' || x == 'X' then based fun c => (hexDigit? c).isSome
    else if x == 'o' || x == 'O' then based fun c => '0' ≤ c && c ≤ '7'
    else if x == 'b' || x == 'B' then based fun c => c == '0' || c == '1'
    else decimalNumber? cs
  | _ => decimalNumber? cs

/-! ## String literals -/

/-- The prefix of a string literal: at most two letters before a quote. -/
def stringPrefix? (cs : List Char) : Option (List Char × List Char) :=
  let isQuote (c : Char) : Bool := c == '"' || c == '\''
  match cs with
  | a :: b :: c :: rest =>
    let x := a.toLower
    let y := b.toLower
    if isQuote a then some ([], cs)
    else if isQuote b then
      if x == 'b' || x == 'r' || x == 'u' || x == 'f' then some ([a], b :: c :: rest) else none
    else if isQuote c then
      if (x == 'r' && (y == 'b' || y == 'f')) || ((x == 'b' || x == 'f') && y == 'r') then
        some ([a, b], c :: rest)
      else none
    else none
  | [a, b] =>
    if isQuote a then some ([], cs)
    else if isQuote b && (['b', 'r', 'u', 'f'].contains a.toLower) then some ([a], [b])
    else none
  | [a] => if isQuote a then some ([], cs) else none
  | [] => none

/-- The characters of a literal up to its closing quote, which must be on the same
line. -/
def shortString? (quote : Char) : List Char → Option (List Char × List Char)
  | [] => none
  | '\\' :: c :: cs => (shortString? quote cs).map fun (body, rest) => ('\\' :: c :: body, rest)
  | c :: cs =>
    if c == '\n' then none
    else if c == quote then some ([c], cs)
    else (shortString? quote cs).map fun (body, rest) => (c :: body, rest)

/-- The characters of a literal up to its three closing quotes. -/
def longString? (quote : Char) : List Char → Option (List Char × List Char)
  | [] => none
  | '\\' :: c :: cs => (longString? quote cs).map fun (body, rest) => ('\\' :: c :: body, rest)
  | c :: cs =>
    if c == quote && [quote, quote].isPrefixOf cs then
      some ([quote, quote, quote], cs.drop 2)
    else (longString? quote cs).map fun (body, rest) => (c :: body, rest)

/-- The rest of a string literal that starts with a quote, with its quotes. -/
def quotedString? (cs : List Char) : Option (List Char × List Char) :=
  match cs with
  | q :: q' :: q'' :: rest =>
    if q == q' && q == q'' then
      (longString? q rest).map fun (body, rest) => (q :: q :: q :: body, rest)
    else (shortString? q (q' :: q'' :: rest)).map fun (body, rest) => (q :: body, rest)
  | q :: rest => (shortString? q rest).map fun (body, rest) => (q :: body, rest)
  | [] => none

/-! ## The state of the analysis -/

/-- How the words `async` and `await` are read.  They are reserved everywhere, or
only within a function that is introduced by `async`: then `inside` holds the depth
of indentation of its definition and whether its first line has ended. -/
structure AsyncWords where
  always : Bool
  inside : Option (Nat × Bool)

/-- The state between two tokens: the line, the columns of the open indentations from
the innermost one, measured with tabs of eight and of one, and the open brackets
with their lines. -/
structure LexState where
  line : Nat
  columns : List (Nat × Nat)
  brackets : List (Char × Nat)
  async : AsyncWords

/-- The state at the start of a text. -/
def LexState.start (line : Nat) (asyncReserved : Bool) : LexState :=
  ⟨line, [(0, 0)], [], ⟨asyncReserved, none⟩⟩

/-- The state after a line break that is followed by the given characters. -/
def LexState.nextLine (s : LexState) (rest : List Char) : LexState :=
  if rest.isEmpty then s else { s with line := s.line + 1 }

/-- The number of open indentations. -/
def LexState.depth (s : LexState) : Nat :=
  s.columns.length - 1

/-- What one step of the analysis yields: tokens and the state after them, the last
token, or a fault. -/
inductive LexStep where
  | more (tokens : List Token) (state : LexState) (atLineStart : Bool) (rest : List Char)
  | last (tokens : List Token)
  | stop (error : LexError)

/-! ## The start of a line -/

/-- The white space at the start of a line. -/
structure Margin where
  column : Nat
  tabless : Nat
  continued : Nat
  line : Nat

/-- Measures the white space at the start of a line; a form feed starts it again, and
after a continuation the column of its backslash counts. -/
def measure (m : Margin) : List Char → Except LexError (Margin × List Char)
  | ' ' :: cs => measure { m with column := m.column + 1, tabless := m.tabless + 1 } cs
  | '\t' :: cs =>
    measure { m with column := (m.column / 8 + 1) * 8, tabless := m.tabless + 1 } cs
  | '\x0c' :: cs => measure { m with column := 0, tabless := 0 } cs
  | '\\' :: '\n' :: c :: cs =>
    measure
      { m with continued := if m.continued = 0 then m.column else m.continued, line := m.line + 1 }
      (c :: cs)
  | ['\\', '\n'] => .error ⟨.endInContinuation, m.line⟩
  | '\\' :: _ => .error ⟨.strayContinuation, m.line⟩
  | cs => .ok (m, cs)

/-- The open indentations that are at most as deep as a column, and the number of
those that are closed. -/
def closeColumns (column : Nat) : List (Nat × Nat) → List (Nat × Nat) × Nat
  | [] => ([], 0)
  | c :: cs =>
    if column < c.1 ∧ cs ≠ [] then
      let (open', n) := closeColumns column cs
      (open', n + 1)
    else (c :: cs, 0)

/-- Compares the margin of a line with the open indentations. -/
def indentation (s : LexState) (m : Margin) (rest : List Char) : LexStep :=
  let column := if m.continued = 0 then m.column else m.continued
  let tabless := if m.continued = 0 then m.tabless else m.continued
  let current := s.columns.headD (0, 0)
  if column = current.1 then
    if tabless = current.2 then .more [] s false rest else .stop ⟨.mixedTabs, s.line⟩
  else if current.1 < column then
    if 100 ≤ s.depth + 1 then .stop ⟨.tooManyIndents, s.line⟩
    else if tabless ≤ current.2 then .stop ⟨.mixedTabs, s.line⟩
    else .more [⟨.indent, s.line⟩] { s with columns := (column, tabless) :: s.columns } false rest
  else
    let (columns, closed) := closeColumns column s.columns
    let reached := columns.headD (0, 0)
    if column ≠ reached.1 then .stop ⟨.unmatchedDedent, s.line⟩
    else if tabless ≠ reached.2 then .stop ⟨.mixedTabs, s.line⟩
    else .more (List.replicate closed ⟨.dedent, s.line⟩) { s with columns } false rest

/-- The characters after a comment. -/
def afterComment (cs : List Char) : List Char :=
  cs.dropWhile (· != '\n')

/-- The step at the start of a line: a line without code yields nothing. -/
def lineStart (s : LexState) (cs : List Char) : LexStep :=
  match measure ⟨0, 0, 0, s.line⟩ cs with
  | .error e => .stop e
  | .ok (m, rest) =>
    let s := { s with line := m.line }
    match rest with
    | '\n' :: more => .more [] (s.nextLine more) true more
    | '#' :: more =>
      match afterComment more with
      | _ :: more => .more [] (s.nextLine more) true more
      | [] => .more [] s false []
    | _ => if s.brackets.isEmpty then indentation s m rest else .more [] s false rest

/-! ## Tokens within a line -/

/-- Whether a character is white space within a line. -/
def isLineBlank (c : Char) : Bool :=
  c == ' ' || c == '\t' || c == '\x0c'

/-- Whether the word `def` follows, possibly on a continued line. -/
def defFollows : List Char → Bool
  | '\\' :: '\n' :: cs => defFollows cs
  | c :: cs => if isLineBlank c then defFollows cs else startsWithWord ['d', 'e', 'f'] (c :: cs)
  | [] => false

/-- Leaves the function introduced by `async` once a line after its first one is not
indented more than its definition. -/
def LexState.leaveAsync (s : LexState) (cs : List Char) : LexState :=
  match s.async.inside with
  | some (depth, true) =>
    if cs.head? ≠ some '\n' ∧ s.brackets.isEmpty ∧ s.depth ≤ depth then
      { s with async := { s.async with inside := none } }
    else s
  | _ => s

/-- Notes the end of a line for the words `async` and `await`. -/
def LexState.endLine (s : LexState) : LexState :=
  { s with async := { s.async with inside := s.async.inside.map fun (depth, _) => (depth, true) } }

/-- The token of a word and the state after it. -/
def wordToken (s : LexState) (word rest : List Char) : LexStep :=
  let token (x : Lexeme) : Token := ⟨x, s.line⟩
  match Word.ofChars? word with
  | some .async =>
    if s.async.always || s.async.inside.isSome then .more [token (.word .async)] s false rest
    else if defFollows rest then
      .more [token (.word .async)] { s with async := { s.async with inside := some (s.depth, false) } }
        false rest
    else .more [token (.name word)] s false rest
  | some .await =>
    if s.async.always || s.async.inside.isSome then .more [token (.word .await)] s false rest
    else .more [token (.name word)] s false rest
  | some w => .more [token (.word w)] s false rest
  | none =>
    if word.all isAscii || isIdentifier word then .more [token (.name word)] s false rest
    else .stop ⟨.invalidCharacter, s.line⟩

/-- The closing bracket of an opening one. -/
def closingOf (c : Char) : Char :=
  if c == '(' then ')' else if c == '[' then ']' else '}'

/-- The token of an operator, of which `c` is the first character; brackets are
matched. -/
def opToken (s : LexState) (c : Char) (op : Op) (rest : List Char) : LexStep :=
  let token : Token := ⟨.op op, s.line⟩
  match op with
  | .lPar | .lSqb | .lBrace =>
    if 200 ≤ s.brackets.length then .stop ⟨.tooManyBrackets, s.line⟩
    else .more [token] { s with brackets := (c, s.line) :: s.brackets } false rest
  | .rPar | .rSqb | .rBrace =>
    match s.brackets with
    | [] => .stop ⟨.unmatchedBracket, s.line⟩
    | (opening, _) :: brackets =>
      if closingOf opening == c then .more [token] { s with brackets } false rest
      else .stop ⟨.mismatchedBracket, s.line⟩
  | .other =>
    if isPrintable c then .more [token] s false rest else .stop ⟨.invalidCharacter, s.line⟩
  | _ => .more [token] s false rest

/-- The step at the end of the text. -/
def textEnd (s : LexState) : LexStep :=
  match s.brackets with
  | [] => .last [⟨.endMarker, s.line⟩]
  | (_, line) :: _ => .stop ⟨.endInBracket, line⟩

/-- Whether a number starts here. -/
def startsNumber : List Char → Bool
  | '.' :: c :: _ => c.isDigit
  | c :: _ => c.isDigit
  | [] => false

/-- The step at the first character of a token. -/
def tokenAt (s : LexState) (cs : List Char) : LexStep :=
  match cs with
  | [] => textEnd s
  | '\n' :: rest =>
    if s.brackets.isEmpty then .more [⟨.newline, s.line⟩] (s.endLine.nextLine rest) true rest
    else .more [] (s.nextLine rest) true rest
  | ['\\', '\n'] => .stop ⟨.endInContinuation, s.line⟩
  | '\\' :: '\n' :: rest => .more [] (s.nextLine rest) false rest
  | '\\' :: _ => .stop ⟨.strayContinuation, s.line⟩
  | c :: rest =>
    match stringPrefix? cs with
    | some (letters, quoted) =>
      match quotedString? quoted with
      | some (literal, rest) =>
        .more [⟨.string (letters ++ literal), s.line⟩]
          { s with line := s.line + literal.count '\n' } false rest
      | none => .stop ⟨.unterminatedString, s.line⟩
    | none =>
      if isWordStart c then wordToken s (cs.takeWhile isWordChar) (cs.dropWhile isWordChar)
      else if startsNumber cs then
        match number? cs with
        | some (digits, rest) => .more [⟨.number digits, s.line⟩] s false rest
        | none => .stop ⟨.invalidNumber, s.line⟩
      else
        match Op.longest? cs with
        | some (op, rest) => opToken s c op rest
        | none => .more [] s false rest

/-- The step within a line. -/
def inLine (s : LexState) (cs : List Char) : LexStep :=
  let s := s.leaveAsync cs
  let cs := cs.dropWhile isLineBlank
  tokenAt s (if cs.head? = some '#' then afterComment cs else cs)

/-- The tokens from a state on.  Each line needs one step for its start and each other
step takes a character, so twice as many steps as characters are enough. -/
def scan : (steps : Nat) → LexState → (atLineStart : Bool) → List Char → Lexed
  | 0, _, _, _ => ⟨[], none⟩
  | steps + 1, s, atLineStart, cs =>
    match if atLineStart then lineStart s cs else inLine s cs with
    | .more tokens s atLineStart rest =>
      let lexed := scan steps s atLineStart rest
      { lexed with tokens := tokens ++ lexed.tokens }
    | .last tokens => ⟨tokens, none⟩
    | .stop error => ⟨[], some error⟩

/-- The tokens of a text whose first line has a given number. -/
def lex (line : Nat) (asyncReserved : Bool) (cs : List Char) : Lexed :=
  scan (2 * cs.length + 3) (.start line asyncReserved) true cs

end AnnotatedMarkdown.Python
