import AnnotatedMarkdown.Python.Quoted

/-!
# String literals with few escape sequences

A text that is to be written without escape sequences, as far as possible, is put
between the first quotes that do not occur in it.  `QuoteStyle.choose` narrows a list
of quotes down to those that a text allows, and gives the text as it is written.
-/

namespace AnnotatedMarkdown.Python

/-- Quotes: one quote character, or three of them. -/
structure QuoteStyle where
  quote : Char
  isLong : Bool
  deriving DecidableEq

namespace QuoteStyle

/-- The quotes of three characters. -/
def long : List QuoteStyle :=
  [⟨'"', true⟩, ⟨'\'', true⟩]

/-- All quotes, the preferred ones first. -/
def all : List QuoteStyle :=
  [⟨'\'', false⟩, ⟨'"', false⟩] ++ long

/-- The characters of the quotes. -/
def text (q : QuoteStyle) : Text :=
  .ofChars (List.replicate (if q.isLong then 3 else 1) q.quote)

/-- A code point as it is written: line feeds and tabs may stay, backslashes and what
is not printable never do. -/
def writtenPoint (escapeBlanks : Bool) (c : CodePoint) : Text :=
  if !escapeBlanks && (c = .scalar '\n' || c = .scalar '\t') then [c]
  else if c = .scalar '\\' || !isPrintablePoint c then escapeSequence c
  else [c]

/-- The quotes that do not occur in a written text; a line feed asks for long ones. -/
def allowed (written : Text) (styles : List QuoteStyle) : List QuoteStyle :=
  styles.filter fun q =>
    (q.isLong || !written.contains (.scalar '\n')) && !q.text.occursIn written

/-- The written form of a text that every quote occurs in, and its quotes. -/
def fallback (t : Text) (styles : List QuoteStyle) : Text × List QuoteStyle :=
  let quote := quoteFor t
  let style := (styles.find? fun q => q.quote == quote).getD ⟨quote, false⟩
  (t.flatMap (quotedPoint quote), [style])

/-- A text as it is written, and the quotes that it may be put into, the preferred
ones first.  Quotes that the text ends with come last and ask for a backslash. -/
def choose (t : Text) (styles : List QuoteStyle) (escapeBlanks : Bool) :
    Text × List QuoteStyle :=
  let written := t.flatMap (writtenPoint escapeBlanks)
  match allowed written styles with
  | [] => fallback t styles
  | possible =>
    match written.getLast? with
    | none => (written, possible)
    | some last =>
      let endsWith (q : QuoteStyle) : Bool := decide (CodePoint.scalar q.quote = last)
      match possible.filter (fun q => !endsWith q) ++ possible.filter endsWith with
      | [] => (written, [])
      | q :: qs =>
        if endsWith q then (written.dropLast ++ [.scalar '\\', last], q :: qs)
        else (written, q :: qs)

/-- A text between the first quotes of a list. -/
def enclose (written : Text) (styles : List QuoteStyle) : Text :=
  let quotes := (styles.head?.map text).getD []
  quotes ++ written ++ quotes

/-- A text as a literal with few escape sequences. -/
def literal (t : Text) (styles : List QuoteStyle) : Text :=
  let (written, styles) := choose t styles false
  enclose written styles

/-- The text of a format string from its parts; the flag tells that a part is a text
and not a replacement field. -/
def formatLiteral (parts : List (Text × Bool)) : Text :=
  let (written, styles) := parts.foldl
    (fun (written, styles) (part, isText) =>
      let (more, styles) := choose part styles isText
      (written ++ more, styles))
    (([] : Text), all)
  enclose written styles

end QuoteStyle

end AnnotatedMarkdown.Python
