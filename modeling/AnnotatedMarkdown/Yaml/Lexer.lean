import AnnotatedMarkdown.Yaml.Scalar
import AnnotatedMarkdown.Yaml.Token

/-!
# Lexical analysis of YAML text

`tokensOf` splits a text into tokens.  A key of a mapping need not be marked: whatever
starts on a line may turn out to be a key when a colon follows it on the same line.  So
the analysis notes where such a key could start, and marks the token there when it finds
the colon.
-/

namespace AnnotatedMarkdown.Yaml

/-! ## Names, tags and directives -/

/-- The name of an anchor or an alias, and the place after it. -/
def anchorName (c : Cursor) : Except Fault (Text × Cursor) :=
  let (name, c) := c.takeWhile isNameChar
  let ends := endsBefore
    (fun d => isGap d || ['?', ':', ',', ']', '}', '%', '@', '\x60'].contains d) c.rest
  if name.isEmpty || !ends then .error .malformed else .ok (.ofChars name, c)

/-- Whether a character may stand in a tag. -/
def isTagChar (c : Char) : Bool :=
  isNameChar c || [';', '/', '?', ':', '@', '&', '=', '+', '$', ',', '.', '!', '~', '*', '\'', '(',
    ')', '[', ']'].contains c

/-- The number of bytes of a character whose first byte is given. -/
def encodedLength? (first : Nat) : Option Nat :=
  if first < 0x80 then some 1
  else if 0xC2 ≤ first && first < 0xE0 then some 2
  else if 0xE0 ≤ first && first < 0xF0 then some 3
  else if 0xF0 ≤ first && first < 0xF5 then some 4
  else none

/-- The character that bytes encode: the shortest encoding of a scalar value. -/
def decodedChar? (bytes : List Nat) : Option Char :=
  match bytes with
  | [a] => if a < 0x80 then some (Char.ofNat a) else none
  | a :: rest =>
    if rest.all fun b => 0x80 ≤ b && b < 0xC0 then
      let lead := a % Nat.pow 2 (6 - rest.length)
      let n := rest.foldl (fun n b => n * 64 + b % 64) lead
      let least := if rest.length = 1 then 0x80 else if rest.length = 2 then 0x800 else 0x10000
      if n < least then none
      else (CodePoint.ofNat? n).bind CodePoint.char?
    else none
  | [] => none

/-- The characters that bytes encode. -/
def decodedChars? : (steps : Nat) → List Nat → Option (List Char)
  | 0, _ => none
  | _ + 1, [] => some []
  | steps + 1, b :: bytes => do
    let n ← encodedLength? b
    let taken := (b :: bytes).take n
    if taken.length = n then
      let c ← decodedChar? taken
      let cs ← decodedChars? steps ((b :: bytes).drop n)
      return c :: cs
    else none

/-- The bytes of the escapes at a place, and the place after them. -/
def tagEscapes : (steps : Nat) → Cursor → Except Fault (List Nat × Cursor)
  | 0, c => .ok ([], c)
  | steps + 1, c =>
    match c.rest with
    | '%' :: a :: b :: _ =>
      if (Unicode.hexDigit? a).isSome && (Unicode.hexDigit? b).isSome then do
        let (bytes, c) ← tagEscapes steps (c.skip 3)
        return (Unicode.hexNumber [a, b] :: bytes, c)
      else .error .malformed
    | '%' :: _ => .error .malformed
    | _ => .ok ([], c)

/-- The characters of a tag, and the place after it. -/
def tagChars : (steps : Nat) → Cursor → Except Fault (List Char × Cursor)
  | 0, c => .ok ([], c)
  | steps + 1, c =>
    match c.rest with
    | '%' :: _ => do
      let (bytes, c) ← tagEscapes steps c
      match decodedChars? (bytes.length + 1) bytes with
      | some cs =>
        let (more, c) ← tagChars steps c
        return (cs ++ more, c)
      | none => throw .malformed
    | d :: _ =>
      if isTagChar d then do
        let (cs, c) ← tagChars steps c.advance
        return (d :: cs, c)
      else .ok ([], c)
    | [] => .ok ([], c)

/-- A tag or the end of one, and the place after it; it is not empty in the text. -/
def tagText (c : Cursor) : Except Fault (Text × Cursor) := do
  let (cs, after) ← tagChars (c.rest.length + 1) c
  if after.index = c.index then throw .malformed else return (.ofChars cs, after)

/-- A handle, which is one exclamation mark, or a name between two, and the place after
it. -/
def tagHandle (c : Cursor) : Except Fault (Text × Cursor) :=
  match c.rest with
  | '!' :: ' ' :: _ => .ok ("!", c.advance)
  | '!' :: _ =>
    let (name, after) := c.advance.takeWhile isNameChar
    match after.rest with
    | '!' :: _ => .ok (.ofChars ('!' :: name ++ ['!']), after.advance)
    | _ => .error .malformed
  | _ => .error .malformed

/-- Whether another exclamation mark follows before the word ends. -/
def hasHandle (cs : List Char) : Bool :=
  (cs.takeWhile fun d => !(d == ' ' || isBreak d)).contains '!'

/-- The token of a tag and the place after it. -/
def tagToken (c : Cursor) : Except Fault (Token × Cursor) := do
  let (token, c) ←
    match c.rest.drop 1 with
    | '<' :: _ => do
      let (suffix, c) ← tagText (c.skip 2)
      match c.rest with
      | '>' :: _ => pure (Token.tag none suffix, c.advance)
      | _ => throw .malformed
    | rest =>
      if gapFollows rest then pure (Token.tag none "!", c.advance)
      else if hasHandle rest then do
        let (handle, c) ← tagHandle c
        let (suffix, c) ← tagText c
        pure (Token.tag (some handle) suffix, c)
      else do
        let (suffix, c) ← tagText c.advance
        pure (Token.tag (some "!") suffix, c)
  if wordEnds c.rest then return (token, c) else throw .malformed

/-- The digits of a version number, which are not too many, and the place after them. -/
def versionNumber (c : Cursor) : Except Fault (Nat × Cursor) :=
  let (digits, c) := c.takeWhile Char.isDigit
  if digits.isEmpty then .error .malformed
  else if Python.maxDecimalDigits < digits.length then .error (.defect .tooManyDigits)
  else .ok (Python.digitsValue 10 digits, c)

/-- A directive and the place after it, from the place after the percent sign. -/
def directive (c : Cursor) : Except Fault (Directive × Cursor) := do
  let (name, c) := c.takeWhile isNameChar
  if name.isEmpty || !wordEnds c.rest then throw .malformed
  else if name = ['Y', 'A', 'M', 'L'] then
    let (major, c) ← versionNumber c.skipSpaces
    match c.rest with
    | '.' :: _ =>
      let (_, c) ← versionNumber c.advance
      if wordEnds c.rest then return (.version major, ← c.skipRestOfLine) else throw .malformed
    | _ => throw .malformed
  else if name = ['T', 'A', 'G'] then
    let (handle, c) ← tagHandle c.skipSpaces
    if c.rest.head? == some ' ' then
      let (tagPrefix, c) ← tagText c.skipSpaces
      if wordEnds c.rest then return (.handle handle tagPrefix, ← c.skipRestOfLine)
      else throw .malformed
    else throw .malformed
  else return (.ignored, ← (c.dropWhile (!isBreak ·)).skipRestOfLine)

/-! ## The state of the analysis -/

/-- A token with the marks that were found to stand in front of it. -/
structure Slot where
  token : Token
  isKey : Bool
  startsMapping : Bool

/-- The tokens of a slot. -/
def Slot.tokens (s : Slot) : List Token :=
  (if s.startsMapping then [.mappingStart] else []) ++ (if s.isKey then [.key] else []) ++ [s.token]

/-- A place at which a key could start: the slot of its first token, and whether there
must be a key. -/
structure PossibleKey where
  slot : Nat
  isRequired : Bool
  index : Nat
  line : Nat
  column : Nat

/-- The state between two tokens: the place, the slots so far with the last one first,
the number of open flow collections, the columns of the open block collections, whether a
key may start here, and the possible keys by the flow collection that they stand in. -/
structure Analysis where
  cursor : Cursor
  slots : List Slot
  flow : Nat
  indent : Int
  indents : List Int
  keyAllowed : Bool
  keys : List (Nat × PossibleKey)

namespace Analysis

/-- The state at the start of a text. -/
def start (cs : List Char) : Analysis :=
  ⟨.start cs, [], 0, -1, [], true, []⟩

/-- Adds a token. -/
def push (a : Analysis) (t : Token) : Analysis :=
  { a with slots := ⟨t, false, false⟩ :: a.slots }

/-- Moves to another place. -/
def moveTo (a : Analysis) (c : Cursor) : Analysis :=
  { a with cursor := c }

/-- Allows or forbids a key at the next token. -/
def allowKey (a : Analysis) (allowed : Bool) : Analysis :=
  { a with keyAllowed := allowed }

/-- The possible key in the current flow collection. -/
def key? (a : Analysis) : Option PossibleKey :=
  (a.keys.find? fun k => k.1 == a.flow).map Prod.snd

/-- Forgets the possible key in the current flow collection. -/
def dropKey (a : Analysis) : Analysis :=
  { a with keys := a.keys.filter fun k => k.1 != a.flow }

/-- Gives up the possible key in the current flow collection, which must not be
required. -/
def giveUpKey (a : Analysis) : Except Fault Analysis :=
  match a.key? with
  | some k => if k.isRequired then .error .malformed else .ok a.dropKey
  | none => .ok a

/-- Whether a key that could start at a place is too far back: a key ends on its line,
and within a number of characters. -/
def isStale (a : Analysis) (k : PossibleKey) : Bool :=
  k.line != a.cursor.line || k.index + 1024 < a.cursor.index

/-- Gives up the possible keys that are too far back. -/
def giveUpStaleKeys (a : Analysis) : Except Fault Analysis :=
  if a.keys.any fun k => a.isStale k.2 && k.2.isRequired then .error .malformed
  else .ok { a with keys := a.keys.filter fun k => !a.isStale k.2 }

/-- Notes that a key could start here. -/
def noteKey (a : Analysis) : Except Fault Analysis :=
  if a.keyAllowed then do
    let a ← a.giveUpKey
    let c := a.cursor
    let isRequired := a.flow == 0 && a.indent == c.column
    return { a with keys := (a.flow, ⟨a.slots.length, isRequired, c.index, c.line, c.column⟩) :: a.keys }
  else .ok a

/-- Closes the block collections whose column is greater than a given one. -/
def closeTo (a : Analysis) (column : Int) : List Int → Analysis
  | [] => a
  | indent :: indents =>
    if column < a.indent then closeTo { a.push .blockEnd with indent, indents } column indents else a

/-- Closes block collections, outside flow collections. -/
def unwind (a : Analysis) (column : Int) : Analysis :=
  if a.flow = 0 then a.closeTo column a.indents else a

/-- Opens a block collection at a column if none is open there. -/
def openAt (a : Analysis) (column : Int) : Analysis × Bool :=
  if a.indent < column then ({ a with indent := column, indents := a.indent :: a.indents }, true)
  else (a, false)

/-- Opens a block collection with its mark at a column if none is open there. -/
def openBlock (a : Analysis) (mark : Token) : Analysis :=
  let (a, isNew) := a.openAt a.cursor.column
  if isNew then a.push mark else a

/-- Marks the slot that a number of slots follow as a key. -/
def markKey (startsMapping : Bool) : (following : Nat) → List Slot → List Slot
  | _, [] => []
  | 0, s :: slots => { s with isKey := true, startsMapping } :: slots
  | following + 1, s :: slots => s :: markKey startsMapping following slots

/-! ## Tokens -/

/-- Skips spacing, comments and line breaks, after which a key may start. -/
def skipToToken : (steps : Nat) → Analysis → Analysis
  | 0, a => a
  | steps + 1, a =>
    let c := if a.cursor.index = 0 && a.cursor.rest.head? == some '\ufeff' then a.cursor.advance
      else a.cursor
    let c := c.skipSpaces.skipComment
    match c.lineBreak? with
    | some (_, c) => skipToToken steps { a with cursor := c, keyAllowed := a.keyAllowed || a.flow == 0 }
    | none => a.moveTo c

/-- Takes one character as a token. -/
def single (a : Analysis) (t : Token) : Analysis :=
  (a.moveTo a.cursor.advance).push t

/-- The mark of a document: it closes all block collections. -/
def documentMark (a : Analysis) (t : Token) : Except Fault Analysis := do
  let a ← (a.unwind (-1)).giveUpKey
  return ((a.moveTo (a.cursor.skip 3)).push t).allowKey false

/-- A directive. -/
def takeDirective (a : Analysis) : Except Fault Analysis := do
  let a ← (a.unwind (-1)).giveUpKey
  let (d, c) ← directive a.cursor.advance
  return ((a.moveTo c).push (.directive d)).allowKey false

/-- The start of a flow collection, which may be a key. -/
def openFlow (a : Analysis) (t : Token) : Except Fault Analysis := do
  let a ← a.noteKey
  return ({ a with flow := a.flow + 1 }.single t).allowKey true

/-- The end of a flow collection. -/
def closeFlow (a : Analysis) (t : Token) : Except Fault Analysis := do
  let a ← a.giveUpKey
  match a.flow with
  | 0 => throw .malformed
  | flow + 1 => return ({ a with flow }.single t).allowKey false

/-- A comma between entries. -/
def flowEntry (a : Analysis) : Except Fault Analysis := do
  let a ← a.giveUpKey
  return (a.single .flowEntry).allowKey true

/-- The mark of an entry of a block sequence. -/
def blockEntry (a : Analysis) : Except Fault Analysis := do
  if a.flow = 0 && !a.keyAllowed then throw .malformed
  else
    let a := if a.flow = 0 then a.openBlock .sequenceStart else a
    let a ← a.giveUpKey
    return (a.single .blockEntry).allowKey true

/-- The mark of a key. -/
def keyMark (a : Analysis) : Except Fault Analysis := do
  if a.flow = 0 && !a.keyAllowed then throw .malformed
  else
    let a := if a.flow = 0 then a.openBlock .mappingStart else a
    let a ← a.giveUpKey
    return (a.single .key).allowKey (a.flow == 0)

/-- The mark of a value.  The token at which a key could start becomes a key, which opens
a mapping if none is open at its column. -/
def valueMark (a : Analysis) : Except Fault Analysis := do
  match a.key? with
  | some k =>
    let a := a.dropKey
    let (a, isNew) := if a.flow = 0 then a.openAt k.column else (a, false)
    let slots := markKey isNew (a.slots.length - 1 - k.slot) a.slots
    return ({ a with slots }.single .value).allowKey false
  | none =>
    if a.flow = 0 && !a.keyAllowed then throw .malformed
    else
      let a := if a.flow = 0 then a.openBlock .mappingStart else a
      let a ← a.giveUpKey
      return (a.single .value).allowKey (a.flow == 0)

/-- An alias or an anchor, which may be a key or stand in front of one. -/
def takeAnchor (a : Analysis) (make : Text → Token) : Except Fault Analysis := do
  let a ← a.noteKey
  let (name, c) ← anchorName a.cursor.advance
  return ((a.moveTo c).push (make name)).allowKey false

/-- A tag, which may stand in front of a key. -/
def takeTag (a : Analysis) : Except Fault Analysis := do
  let a ← a.noteKey
  let (t, c) ← tagToken a.cursor
  return ((a.moveTo c).push t).allowKey false

/-- A block scalar. -/
def takeBlockScalar (a : Analysis) (folded : Bool) : Except Fault Analysis := do
  let a ← a.giveUpKey
  let (cs, c) ← blockScalar folded a.indent a.cursor.advance
  return ((a.moveTo c).push (.scalar (.ofChars cs) false)).allowKey true

/-- A quoted scalar, which may be a key. -/
def takeQuoted (a : Analysis) (quote : Char) : Except Fault Analysis := do
  let a ← a.noteKey
  let (t, c) ← quotedScalar quote (a.cursor.rest.length + 1) a.cursor.advance
  return ((a.moveTo c).push (.scalar t false)).allowKey false

/-- A plain scalar, which may be a key. -/
def takePlain (a : Analysis) : Except Fault Analysis := do
  let a ← a.noteKey
  let s := plainScalar (a.flow != 0) (a.indent + 1) (a.cursor.rest.length + 1) [] false a.cursor
  return ((a.moveTo s.cursor).push (.scalar (.ofChars s.text) true)).allowKey s.endsLine

/-- Whether a plain scalar can start with a character. -/
def startsPlain (inFlow : Bool) (d : Char) (rest : List Char) : Bool :=
  let indicators : List Char :=
    ['-', '?', ':', ',', '[', ']', '{', '}', '#', '&', '*', '!', '|', '>', '\'', '"', '%', '@', '\x60']
  !(isGap d || indicators.contains d)
    || (!gapFollows rest && (d == '-' || (!inFlow && (d == '?' || d == ':'))))

/-- Takes the token that starts with a character. -/
def takeToken (a : Analysis) (d : Char) (rest : List Char) : Except Fault Analysis :=
  let inFlow := a.flow != 0
  let atLineStart := a.cursor.column == 0
  if d == '%' && atLineStart then a.takeDirective
  else if atLineStart && startsWithMark '-' (d :: rest) then a.documentMark .documentStart
  else if atLineStart && startsWithMark '.' (d :: rest) then a.documentMark .documentEnd
  else if d == '[' then a.openFlow .flowSequenceStart
  else if d == '{' then a.openFlow .flowMappingStart
  else if d == ']' then a.closeFlow .flowSequenceEnd
  else if d == '}' then a.closeFlow .flowMappingEnd
  else if d == ',' then a.flowEntry
  else if d == '-' && gapFollows rest then a.blockEntry
  else if d == '?' && (inFlow || gapFollows rest) then a.keyMark
  else if d == ':' && (inFlow || gapFollows rest) then a.valueMark
  else if d == '*' then a.takeAnchor .alias
  else if d == '&' then a.takeAnchor .anchor
  else if d == '!' then a.takeTag
  else if d == '|' && !inFlow then a.takeBlockScalar false
  else if d == '>' && !inFlow then a.takeBlockScalar true
  else if d == '\'' || d == '"' then a.takeQuoted d
  else if startsPlain inFlow d rest then a.takePlain
  else .error .malformed

/-- Takes the tokens that are left. -/
def run : (steps : Nat) → Analysis → Except Fault Analysis
  | 0, a => .ok a
  | steps + 1, a => do
    let a ← (skipToToken (a.cursor.rest.length + 1) a).giveUpStaleKeys
    let a := a.unwind a.cursor.column
    match a.cursor.rest with
    | [] => (a.unwind (-1)).giveUpKey
    | d :: rest => run steps (← a.takeToken d rest)

end Analysis

/-- The tokens of a text. -/
def tokensOf (cs : List Char) : Except Fault (List Token) := do
  let a ← Analysis.run (cs.length + 1) (.start cs)
  return (a.slots.reverse.map Slot.tokens).flatten

end AnnotatedMarkdown.Yaml
