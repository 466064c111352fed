import AnnotatedMarkdown.Python.Lexer
import AnnotatedMarkdown.Python.Recognition.Expression
import AnnotatedMarkdown.Python.Recognition.Parameter
import AnnotatedMarkdown.Python.Recognition.Pattern
import AnnotatedMarkdown.Python.Recognition.Statement
import Std.Data.HashMap

/-!
# The recognizer

`Rule.run` applies a rule at a position of a token sequence.  It tries alternatives
in order and takes the first one that matches, remembers the results of some rules,
and stops where an action finds a fault.  The tokens that have been read so far are
counted, because a fault without a place of its own is reported at the last of them.
-/

namespace AnnotatedMarkdown.Python.Recognition

/-- The definition of a rule. -/
def Rule.definition : Rule → Definition
  | .expression r => expressionDefinition r
  | .parameter isLambda r => parameterDefinition isLambda r
  | .pattern r => patternDefinition r
  | .statement r => statementDefinition r

/-! ## State -/

/-- A fault with its line, the number of tokens that had been read, and whether it was
met in reading them. -/
structure Stop where
  line : Nat
  read : Nat
  isLexical : Bool

/-- What a rule has matched: a constituent, and the position after it. -/
abbrev Found := Option (Node × Nat)

/-- What does not change: the version of the grammar, the tokens with the number of
brackets open after each, the line of the fault after the last token, and the
diagnosis of expressions within string literals. -/
structure Setting where
  version : Nat
  tokens : Array Token
  depths : Array Nat
  faultAfter : Option Nat
  embedded : (line : Nat) → List Char → Option Nat

/-- What changes: the number of tokens that have been read, whether faults are looked
for, and the results that are remembered. -/
structure Progress where
  read : Nat
  diagnosing : Bool
  results : Std.HashMap (Nat × Rule) Found

/-- A computation that may stop at a fault. -/
abbrev Recognizer := StateT Progress (Except Stop)

/-- The line of the last of a number of tokens. -/
def Setting.lastLine (s : Setting) (read : Nat) : Nat :=
  match s.tokens[read - 1]? with
  | some t => t.line
  | none => 0

/-- Reads the token at a position, if there is one. -/
def Setting.token? (s : Setting) (i : Nat) : Recognizer (Option Token) := fun p =>
  let p := { p with read := max p.read (i + 1) }
  match s.tokens[i]?, s.faultAfter with
  | some t, _ => .ok (some t, p)
  | none, some line => .error ⟨line, p.read, true⟩
  | none, none => .ok (none, p)

/-- Stops at a fault. -/
def Setting.stop (s : Setting) (site : Site) : Recognizer α := fun p =>
  match site with
  | .line n => .error ⟨n, p.read, false⟩
  | .lastToken => .error ⟨s.lastLine p.read, p.read, false⟩

/-! ## Items -/

/-- Applies a terminal; a number is checked where it is taken. -/
def Setting.terminal (s : Setting) (t : Terminal) (i : Nat) : Recognizer Found := do
  match (← s.token? i).bind t.node? with
  | some (.number line spelling) =>
    match numberFault? s.version line spelling with
    | some site => s.stop site
    | none => return some (.number line spelling, i + 1)
  | some node => return some (node, i + 1)
  | none => return none

/-- Requires a lexeme. -/
def Setting.forced (s : Setting) (x : Lexeme) (i : Nat) : Recognizer Found := do
  match ← s.token? i with
  | some t => if t.lexeme = x then return some (.plain t.line, i + 1) else s.stop (.line t.line)
  | none => return none

/-- Applies a recognizer as long as it matches, for at most a number of times. -/
def repeated (p : Nat → Recognizer Found) :
    (times : Nat) → Nat → Recognizer (List Node × Nat)
  | 0, i => return ([], i)
  | times + 1, i => do
    match ← p i with
    | none => return ([], i)
    | some (node, i) =>
      let (nodes, i) ← repeated p times i
      return (node :: nodes, i)

/-- A repetition that matches once at least. -/
def repeatedOnce (p : Nat → Recognizer Found) (more : Nat → Recognizer Found) (times i : Nat) :
    Recognizer Found := do
  match ← p i with
  | none => return none
  | some (node, i) =>
    let (nodes, i) ← repeated more times i
    return some (.sequence node.line (node :: nodes), i)

/-- A recognizer after a separator. -/
def afterSeparator (separator p : Nat → Recognizer Found) (i : Nat) : Recognizer Found := do
  match ← separator i with
  | none => return none
  | some (_, i) => p i

/-- What items in sequence yield: what each matched and the position after them, or a
mismatch, which may rule out all other alternatives. -/
inductive Outcome where
  | matched (values : List Node) (position : Nat)
  | mismatch (isFinal : Bool)

/-- The value of items in sequence: that of the last item that has one. -/
def lastValue (values : List Node) : Node :=
  values.foldl (fun
    | last, .nothing => last
    | _, node => node) .nothing

mutual

/-- Applies an item at a position; `self` applies the rules that it refers to. -/
def Item.run (s : Setting) (self : Rule → Nat → Recognizer Found) :
    Item → Nat → Recognizer Found
  | .terminal t, i => s.terminal t i
  | .rule r, i => self r i
  | .forced x, i => s.forced x i
  | .optional item, i => do
    match ← item.run s self i with
    | none => return some (.nothing, i)
    | found => return found
  | .many item, i => do
    let (nodes, j) ← repeated (item.run s self) (s.tokens.size + 1) i
    return some (.sequence 0 nodes, j)
  | .many1 item, i =>
    repeatedOnce (item.run s self) (item.run s self) (s.tokens.size + 1) i
  | .separated separator item, i =>
    repeatedOnce (item.run s self)
      (afterSeparator (s.terminal (.lexeme separator)) (item.run s self)) (s.tokens.size + 1) i
  | .ahead wanted item, i => do
    if (← item.run s self i).isSome = wanted then return some (.nothing, i) else return none
  | .group alternatives, i => runFirst s self alternatives i
  | .cut, i => return some (.nothing, i)

/-- Applies items one after another. -/
def runAll (s : Setting) (self : Rule → Nat → Recognizer Found) :
    List Item → Nat → Recognizer Outcome
  | [], i => return .matched [] i
  | .cut :: rest, i => do
    match ← runAll s self rest i with
    | .matched nodes i => return .matched (.nothing :: nodes) i
    | .mismatch _ => return .mismatch true
  | item :: rest, i => do
    match ← item.run s self i with
    | none => return .mismatch false
    | some (node, i) =>
      match ← runAll s self rest i with
      | .matched nodes i => return .matched (node :: nodes) i
      | mismatch => return mismatch

/-- Applies the first of several sequences of items that matches. -/
def runFirst (s : Setting) (self : Rule → Nat → Recognizer Found) :
    List (List Item) → Nat → Recognizer Found
  | [], _ => return none
  | items :: rest, i => do
    match ← runAll s self items i with
    | .matched nodes i => return some (lastValue nodes, i)
    | .mismatch _ => runFirst s self rest i

end

/-! ## Rules -/

/-- Acts on what an alternative has matched between two positions. -/
def Alternative.act (s : Setting) (a : Alternative) (values : List Node) (start i : Nat) :
    Recognizer Found := do
  let line := s.lastLine (start + 1)
  match a.action ⟨s.version, s.embedded, line, s.depths.getD (i - 1) 0, values⟩ with
  | .value node => return some (node, i)
  | .refused => return none
  | .fault site => s.stop site

/-- Applies the first of several alternatives that matches; diagnoses are left out
unless faults are looked for. -/
def runAlternatives (s : Setting) (self : Rule → Nat → Recognizer Found) :
    List Alternative → Nat → Recognizer Found
  | [], _ => return none
  | a :: rest, i => do
    if a.isDiagnosis && !(← get).diagnosing then runAlternatives s self rest i
    else
      match ← runAll s self a.items i with
      | .matched values j => a.act s values i j
      | .mismatch true => return none
      | .mismatch false => runAlternatives s self rest i

/-- The remembered result of a rule, or its result at a position, which is remembered
then. -/
def remember (r : Rule) (p : Nat → Recognizer Found) (i : Nat) : Recognizer Found := do
  match (← get).results[(i, r)]? with
  | some found => return found
  | none =>
    let found ← p i
    modify fun q => { q with results := q.results.insert (i, r) found }
    return found

/-- Extends a result of a rule that starts with itself: the rule is applied again with
the result so far as its own beginning, as long as it matches more. -/
def extend (r : Rule) (p : Nat → Recognizer Found) (i : Nat) :
    (times : Nat) → (best : Found) → Recognizer Found
  | 0, best => return best
  | times + 1, best => do
    modify fun q => { q with results := q.results.insert (i, r) best }
    match ← p i with
    | none => return best
    | some (node, j) =>
      if j ≤ (best.map Prod.snd).getD i then return best
      else extend r p i times (some (node, j))

/-- Suspends the search for faults. -/
def undiagnosed (p : Nat → Recognizer Found) (i : Nat) : Recognizer Found := do
  let diagnosing := (← get).diagnosing
  modify fun q => { q with diagnosing := false }
  let found ← p i
  modify fun q => { q with diagnosing }
  return found

/-- Applies a rule at a position, with rules nested up to a number of levels. -/
def Rule.run (s : Setting) : (levels : Nat) → Rule → Nat → Recognizer Found
  | 0, _, _ => return none
  | levels + 1, r, i => do
    let definition := r.definition
    let body := runAlternatives s (Rule.run s levels) definition.alternatives
    match definition.mode with
    | .direct => body i
    | .remembered => remember r body i
    | .undiagnosed => undiagnosed body i
    | .leftRecursive =>
      match (← get).results[(i, r)]? with
      | some found => return found
      | none => extend r body i (s.tokens.size + 1) none

/-! ## The line of a fault -/

/-- The lines of the brackets that are open after some tokens, from the innermost
one, and the number of open brackets after each token. -/
def openBrackets : (lines : List Nat) → List Token → List Nat × List Nat
  | lines, [] => (lines, [])
  | lines, t :: rest =>
    let lines :=
      match t.lexeme with
      | .op .lPar => t.line :: lines
      | .op .lSqb => t.line :: lines
      | .op .lBrace => t.line :: lines
      | .op .rPar => lines.tail
      | .op .rSqb => lines.tail
      | .op .rBrace => lines.tail
      | _ => lines
    let (final, depths) := openBrackets lines rest
    (final, lines.length :: depths)

/-- Whether a fault of lexical analysis is found even where no rule reads up to it. -/
def isEager : LexFault → Bool
  | .invalidCharacter => true
  | .unterminatedString => true
  | .invalidNumber => true
  | .unmatchedBracket => true
  | .mismatchedBracket => true
  | .tooManyBrackets => true
  | _ => false

/-- The line of a fault that rules have found: an eager fault of lexical analysis
further on comes before it, and so does a bracket on an earlier line that is open where
the analysis ends. -/
def reportedLine (s : Setting) (error : Option LexError) (brackets : List Nat) (stop : Stop) :
    Nat :=
  match stop.isLexical, error with
  | false, some e =>
    if isEager e.fault then e.line
    else
      match brackets with
      | line :: _ => if line < s.lastLine stop.read then line else stop.line
      | [] => stop.line
  | _, _ => stop.line

/-- The line of the fault in tokens that a rule has to match from the first one on; none
if it matches.  Only if it does not, faults are looked for. -/
def faultIn? (s : Setting) (error : Option LexError) (brackets : List Nat) (r : Rule) :
    Option Nat :=
  let levels := 512 * (s.tokens.size + 1)
  match r.run s levels 0 ⟨0, false, ∅⟩ with
  | .error stop => some (reportedLine s error brackets stop)
  | .ok (some _, _) => none
  | .ok (none, first) =>
    match r.run s levels 0 ⟨first.read, true, ∅⟩ with
    | .error stop => some (reportedLine s error brackets stop)
    | .ok (_, second) =>
      match s.tokens[first.read - 1]? with
      | some ⟨.indent, _⟩ => some (s.lastLine second.read)
      | some ⟨.dedent, _⟩ => some (s.lastLine second.read)
      | _ =>
        some (reportedLine s error brackets ⟨s.lastLine first.read, second.read, false⟩)

/-- The line on which a fault of lexical analysis is reported where rules read up to
it. -/
def lexicalLine (brackets : List Nat) (e : LexError) : Nat :=
  match e.fault, brackets with
  | .endInContinuation, line :: _ => line
  | _, _ => e.line

/-- The line of the fault in a text that a rule has to match.  Expressions within string
literals nest up to a number of levels. -/
def faultLineOf? (version : Nat) (asyncReserved : Bool) :
    (levels : Nat) → Rule → (line : Nat) → List Char → Option Nat
  | 0, _, _, _ => none
  | levels + 1, r, line, cs =>
    let lexed := lex line asyncReserved (moduleSource cs)
    let (brackets, depths) := openBrackets [] lexed.tokens
    let embedded (line : Nat) (cs : List Char) : Option Nat :=
      faultLineOf? version asyncReserved levels (.statement .embedded) line ('(' :: cs ++ [')'])
    faultIn?
      ⟨version, lexed.tokens.toArray, depths.toArray, lexed.error.map (lexicalLine brackets),
        embedded⟩
      lexed.error brackets r

end AnnotatedMarkdown.Python.Recognition
