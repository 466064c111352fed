import AnnotatedMarkdown.Unicode.DigitTable
import AnnotatedMarkdown.Unicode.IdentifierTable
import AnnotatedMarkdown.Unicode.PrintableTable

/-!
# Classes of characters

Identifier characters, printable characters and decimal digits.  The ASCII
characters of each class are stated here; the tables are asked for the others.
-/

namespace AnnotatedMarkdown.Unicode

/-- Whether a character is in the ASCII range. -/
def isAscii (c : Char) : Bool :=
  c.toNat < 128

/-- An ASCII letter or the low line. -/
def isAsciiWordStart (c : Char) : Bool :=
  c.isAlpha || c == '_'

/-- Whether a character may start an identifier. -/
def isIdentifierStart (c : Char) : Bool :=
  if isAscii c then isAsciiWordStart c else identifierStart.contains c.toNat

/-- Whether a character may continue an identifier. -/
def isIdentifierContinue (c : Char) : Bool :=
  if isAscii c then isAsciiWordStart c || c.isDigit else identifierContinue.contains c.toNat

/-- Whether characters form an identifier. -/
def isIdentifier : List Char → Bool
  | [] => false
  | c :: cs => isIdentifierStart c && cs.all isIdentifierContinue

/-- Whether a character is printed as it is. -/
def isPrintable (c : Char) : Bool :=
  if isAscii c then 32 ≤ c.toNat && c.toNat < 127 else printable.contains c.toNat

/-- The value of a decimal digit of any script. -/
def digitValue? (c : Char) : Option Nat :=
  if isAscii c then if c.isDigit then some (c.toNat - 48) else none
  else decimalDigits.offset? c.toNat

end AnnotatedMarkdown.Unicode
