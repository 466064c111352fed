import AnnotatedMarkdown.Markdown.Line
import AnnotatedMarkdown.Unicode.Table

/-!
# Link reference definitions

A definition is a label in square brackets, a colon, a destination and possibly a
title.  It can span several lines: a line is only taken when the definition goes on at
the end of the lines so far.  `linesOfDefinition?` tells how many lines a definition at
the front of some lines takes.
-/

namespace AnnotatedMarkdown.Markdown

/-! ## A cursor over lines -/

/-- What is left of the lines taken so far, how many lines those are, and the contents
of the lines that may still be taken. -/
structure Cursor where
  rest : Text
  taken : Nat
  following : List Text

/-- Takes the content of another line, if there is one. -/
def Cursor.extend (c : Cursor) : Option Cursor :=
  match c.following with
  | [] => none
  | line :: following => some ⟨c.rest ++ line, c.taken + 1, following⟩

/-- The length of all text that a cursor can reach. -/
def Cursor.size (c : Cursor) : Nat :=
  c.rest.length + c.following.foldl (fun n line => n + line.length) 0

/-! ## Labels -/

/-- A cursor after a code point; after a line feed another line is taken. -/
def Cursor.next (c : Cursor) (d : CodePoint) (rest : Text) : Cursor :=
  let c := { c with rest }
  if d.isLineFeed then (c.extend).getD c else c

/-- The code points of a label and what follows its closing bracket. -/
def label? : (steps : Nat) → Cursor → Option (Text × Cursor)
  | 0, _ => none
  | steps + 1, c =>
    match c.rest with
    | [] => none
    | .scalar '[' :: _ => none
    | .scalar ']' :: rest => some ([], { c with rest })
    | .scalar '\\' :: d :: rest =>
      (label? steps (c.next d rest)).map fun (t, c) => (.scalar '\\' :: d :: t, c)
    | d :: rest => (label? steps (c.next d rest)).map fun (t, c) => (d :: t, c)

/-- A cursor after spacing and line breaks. -/
def skipSpacing : (steps : Nat) → Cursor → Cursor
  | 0, c => c
  | steps + 1, c =>
    match c.rest with
    | [] => c
    | d :: rest =>
      if isSpacing d || d.isLineFeed then skipSpacing steps (c.next d rest) else c

/-! ## Destinations -/

/-- The destination between angle brackets and what follows it. -/
def bracketed? : Text → Option (Text × Text)
  | [] => none
  | .scalar '\n' :: _ => none
  | .scalar '<' :: _ => none
  | .scalar '>' :: t => some ([], t)
  | .scalar '\\' :: d :: t => (bracketed? t).map fun (u, rest) => (.scalar '\\' :: d :: u, rest)
  | c :: t => (bracketed? t).map fun (u, rest) => (c :: u, rest)

/-- Whether a code point ends a destination without brackets. -/
def endsDestination (c : CodePoint) : Bool :=
  c.val ≤ 32 || c.val == 127

/-- The destination without brackets and what follows it; `depth` parentheses are
open. -/
def plainDestination? : (depth : Nat) → Text → Option (Text × Text)
  | depth, [] => if depth = 0 then some ([], []) else none
  | depth, c :: t =>
    if endsDestination c then
      if depth = 0 then some ([], c :: t) else none
    else if c == .scalar '\\' then
      match t with
      | [] => if depth = 0 then some ([c], []) else none
      | d :: t =>
        if d == .scalar ' ' then
          if depth = 0 then some ([], c :: d :: t) else none
        else (plainDestination? depth t).map fun (u, rest) => (c :: d :: u, rest)
    else if c == .scalar '(' then
      if depth < 32 then
        (plainDestination? (depth + 1) t).map fun (u, rest) => (c :: u, rest)
      else none
    else if c == .scalar ')' then
      match depth with
      | 0 => some ([], c :: t)
      | depth + 1 => (plainDestination? depth t).map fun (u, rest) => (c :: u, rest)
    else (plainDestination? depth t).map fun (u, rest) => (c :: u, rest)

/-- A destination and what follows it.  One without brackets is not empty. -/
def destination? (t : Text) : Option (Text × Text) :=
  match t with
  | .scalar '<' :: t => bracketed? t
  | t =>
    match plainDestination? 0 t with
    | some (c :: u, rest) => some (c :: u, rest)
    | _ => none

/-! ## Unsafe destinations -/

/-- The character references that can stand for a part of a protocol. -/
def characterReferences : List (String × Char) :=
  [("&colon;", ':'), ("&sol;", '/'), ("&semi;", ';'), ("&comma;", ','), ("&nbsp;", '\xa0'),
    ("&Tab;", '\t'), ("&NewLine;", '\n'), ("&amp;", '&')]

/-- The character with a number in a reference, and what follows the reference. -/
def numericReference? (t : Text) : Option (CodePoint × Text) :=
  let read (digit? : Char → Option Nat) (radix limit : Nat) (t : Text) : Option (CodePoint × Text) :=
    let digits := t.takeWhile fun c => (c.char?.bind digit?).isSome
    let value := (digits.filterMap fun c => c.char?.bind digit?).foldl (fun n d => n * radix + d) 0
    match t.drop digits.length with
    | .scalar ';' :: rest =>
      if digits.isEmpty || limit < digits.length then none
      else (CodePoint.ofNat? value).map fun c => (c, rest)
    | _ => none
  match t with
  | .scalar '&' :: .scalar '#' :: .scalar x :: t =>
    if x == 'x' || x == 'X' then read Unicode.hexDigit? 16 6 t
    else read (fun c => if c.isDigit then Unicode.hexDigit? c else none) 10 7 (.scalar x :: t)
  | _ => none

/-- The character of a reference at the front of a text, and what follows it. -/
def characterReference? (t : Text) : Option (CodePoint × Text) :=
  match numericReference? t with
  | some found => some found
  | none =>
    characterReferences.findSome? fun (name, c) =>
      (Text.after? (.ofString name) t).map fun rest => (.scalar c, rest)

/-- Whether a backslash takes the meaning off a character. -/
def isEscapable (c : CodePoint) : Bool :=
  c.satisfies fun c => 33 ≤ c.toNat && c.toNat ≤ 126 && !c.isAlphanum

/-- A destination without its backslashes and character references. -/
def unescapeDestination : (steps : Nat) → Text → Text
  | 0, t => t
  | _ + 1, [] => []
  | steps + 1, c :: t =>
    match c, t with
    | .scalar '\\', d :: rest =>
      if isEscapable d then d :: unescapeDestination steps rest else c :: unescapeDestination steps t
    | _, _ =>
      match characterReference? (c :: t) with
      | some (d, rest) => d :: unescapeDestination steps rest
      | none => c :: unescapeDestination steps t

/-- Whether the lower-case form of a text starts with a given word. -/
def startsWithLower (word : String) (t : Text) : Bool :=
  (Text.after? (.ofString word) (t.map fun
    | .scalar c => .scalar c.toLower
    | c => c)).isSome

/-- Whether a destination has a protocol that links may not have. -/
def isUnsafe (destination : Text) : Bool :=
  let t := (unescapeDestination destination.length destination).trim
  let protocols := ["vbscript:", "javascript:", "file:", "data:"]
  let images := ["data:image/gif;", "data:image/png;", "data:image/jpeg;", "data:image/webp;"]
  protocols.any (startsWithLower · t) && !images.any (startsWithLower · t)

/-! ## Titles -/

/-- What follows a title up to its closing mark, and whether the title is empty; lines
are taken until there is a closing mark. -/
def titleRest? (closing : Char) : (steps : Nat) → (isEmpty : Bool) → Cursor → Option (Bool × Cursor)
  | 0, _, _ => none
  | steps + 1, isEmpty, c =>
    match c.rest with
    | [] =>
      match c.extend with
      | some c => titleRest? closing steps isEmpty c
      | none => none
    | .scalar '\\' :: _ :: rest => titleRest? closing steps false { c with rest }
    | d :: rest =>
      if d == .scalar closing then some (isEmpty, { c with rest })
      else if d == .scalar '(' && closing == ')' then none
      else titleRest? closing steps false { c with rest }

/-- A title in quotes or parentheses: whether it is empty, and what follows it. -/
def title? (c : Cursor) : Option (Bool × Cursor) :=
  match c.rest with
  | .scalar d :: rest =>
    let steps := 2 * c.size + c.following.length
    if d == '"' || d == '\'' then titleRest? d steps true { c with rest }
    else if d == '(' then titleRest? ')' steps true { c with rest }
    else none
  | _ => none

/-! ## Definitions -/

/-- Whether only spacing is left on the line. -/
def lineEnds (t : Text) : Bool :=
  match t.dropWhile isSpacing with
  | [] => true
  | c :: _ => c.isLineFeed

/-- The number of lines of a definition whose destination ends at a cursor.  A title on
a single line needs spacing in front of it. -/
def linesAfterDestination? (c : Cursor) : Option Nat :=
  let withoutTitle : Option Nat := if lineEnds c.rest then some c.taken else none
  let atTitle := skipSpacing c.size c
  match title? atTitle with
  | some (isEmpty, after) =>
    if atTitle.size = c.size && after.taken = atTitle.taken then withoutTitle
    else if lineEnds after.rest then some after.taken
    else if isEmpty then none
    else withoutTitle
  | none => withoutTitle

/-- The number of lines of a definition that starts with a given content; the contents
that follow are those of the lines that it can go on with. -/
def linesOfDefinition? (content : Text) (following : List Text) : Option Nat :=
  match content with
  | .scalar '[' :: rest => do
    let start : Cursor := ⟨rest, 1, following⟩
    let (label, c) ← label? start.size start
    match c.rest with
    | .scalar ':' :: rest =>
      let c := skipSpacing c.size { c with rest }
      let (destination, rest) ← destination? c.rest
      if isUnsafe destination then none
      else
        let lines ← linesAfterDestination? { c with rest }
        if label.isBlank then none else some lines
    | _ => none
  | _ => none

end AnnotatedMarkdown.Markdown
