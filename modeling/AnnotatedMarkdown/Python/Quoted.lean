import AnnotatedMarkdown.Text.CodePoint
import AnnotatedMarkdown.Unicode.Character

/-!
# Quoted texts

A quoted text stands between single quotes, or between double quotes if it holds a
single quote and no double one.  Backslashes, the quote itself and code points that
are not printable are written as escape sequences.
-/

namespace AnnotatedMarkdown.Python

open Unicode

/-- Whether a code point is printed as it is. -/
def isPrintablePoint (c : CodePoint) : Bool :=
  c.satisfies isPrintable

/-- A number as hexadecimal digits, filled with zeros up to a width. -/
def hexDigits (width n : Nat) : List Char :=
  let digits := Nat.toDigits 16 n
  List.replicate (width - digits.length) '0' ++ digits

/-- The escape sequence of a code point. -/
def escapeSequence (c : CodePoint) : Text :=
  if c = .scalar '\\' then .ofChars ['\\', '\\']
  else if c = .scalar '\t' then .ofChars ['\\', 't']
  else if c = .scalar '\n' then .ofChars ['\\', 'n']
  else if c = .scalar '\r' then .ofChars ['\\', 'r']
  else if c.val < 0x100 then .ofChars ('\\' :: 'x' :: hexDigits 2 c.val)
  else if c.val < 0x10000 then .ofChars ('\\' :: 'u' :: hexDigits 4 c.val)
  else .ofChars ('\\' :: 'U' :: hexDigits 8 c.val)

/-- A code point within a text that stands between the quotes `quote`. -/
def quotedPoint (quote : Char) (c : CodePoint) : Text :=
  if c = .scalar quote then [.scalar '\\', c]
  else if c = .scalar '\\' || !isPrintablePoint c then escapeSequence c
  else [c]

/-- The quote that a text is put into. -/
def quoteFor (t : Text) : Char :=
  if t.contains (.scalar '\'') && !t.contains (.scalar '"') then '"' else '\''

/-- A text in quotes. -/
def quoted (t : Text) : Text :=
  let quote := quoteFor t
  .scalar quote :: t.flatMap (quotedPoint quote) ++ [.scalar quote]

/-- A byte within quotes. -/
def quotedByte (quote : Char) (b : UInt8) : List Char :=
  let c := Char.ofNat b.toNat
  if c == quote || c == '\\' then ['\\', c]
  else if c == '\t' then ['\\', 't']
  else if c == '\n' then ['\\', 'n']
  else if c == '\r' then ['\\', 'r']
  else if 32 ≤ b.toNat && b.toNat < 127 then [c]
  else '\\' :: 'x' :: hexDigits 2 b.toNat

/-- Bytes in quotes after the mark `b`. -/
def quotedBytes (bs : List UInt8) : Text :=
  let quote := quoteFor (bs.map fun b => .scalar (Char.ofNat b.toNat))
  .ofChars ('b' :: quote :: bs.flatMap (quotedByte quote) ++ [quote])

end AnnotatedMarkdown.Python
