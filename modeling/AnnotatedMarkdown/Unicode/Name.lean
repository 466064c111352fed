import AnnotatedMarkdown.Unicode.NameTable
import AnnotatedMarkdown.Unicode.Table

/-!
# Characters by name

`numberOfName?` finds the character that a name stands for.  Letters of either case may be used
in a name that is listed; the names that follow a rule are written in capital letters.
-/

namespace AnnotatedMarkdown.Unicode

/-! ## Listed names -/

/-- An entry of a table of names without the blanks in front of it. -/
def trimEntry (cs : List Char) : List Char :=
  cs.dropWhile fun c => c == ' ' || c == '\n'

/-- The words of a name, given those of the name before it. -/
def nameWords (before : List (List Char)) (entry : List Char) : List (List Char) :=
  match trimEntry entry with
  | [] => []
  | count :: rest => before.take (hexNumber [count]) ++ pieces ' ' rest

/-- Looks for a name among those of consecutive characters, the first of which has a given
number.  What is found comes with the words of the last name. -/
def findConsecutive (name : List (List Char)) :
    (before : List (List Char)) → Nat → List (List Char) → Option Nat × List (List Char)
  | before, _, [] => (none, before)
  | before, n, entry :: entries =>
    let words := nameWords before entry
    if words = name then (some n, words) else findConsecutive name words (n + 1) entries

/-- Looks for a name in the entries of a table. -/
def findNamed (name : List (List Char)) : (before : List (List Char)) → List (List Char) → Option Nat
  | _, [] => none
  | before, entry :: entries =>
    let (number, names) := entrySides (trimEntry entry)
    match findConsecutive name before (hexNumber number) (pieces ',' names) with
    | (some n, _) => some n
    | (none, before) => findNamed name before entries

/-- The character that has a name in a table. -/
def listedName? (table : String) (name : List Char) : Option Nat :=
  findNamed (pieces ' ' (name.map Char.toUpper)) [] (pieces ';' table.toList)

/-! ## Names by rule -/

/-- The names of the first sounds of Hangul syllables. -/
def hangulLeads : List String :=
  ["G", "GG", "N", "D", "DD", "R", "M", "B", "BB", "S", "SS", "", "J", "JJ", "C", "K", "T", "P", "H"]

/-- The names of the vowels of Hangul syllables. -/
def hangulVowels : List String :=
  ["A", "AE", "YA", "YAE", "EO", "E", "YEO", "YE", "O", "WA", "WAE", "OE", "YO", "U", "WEO", "WE", "WI",
    "YU", "EU", "YI", "I"]

/-- The names of the last sounds of Hangul syllables. -/
def hangulTails : List String :=
  ["", "G", "GG", "GS", "N", "NJ", "NH", "D", "L", "LG", "LM", "LB", "LS", "LT", "LP", "LH", "M", "B",
    "BS", "S", "SS", "NG", "J", "C", "K", "T", "P", "H"]

/-- The Hangul syllable of three sounds. -/
def hangulNamed? (sounds : List Char) : Option Nat :=
  hangulLeads.zipIdx.findSome? fun (lead, l) =>
    hangulVowels.zipIdx.findSome? fun (vowel, v) =>
      hangulTails.zipIdx.findSome? fun (tail, t) =>
        if lead.toList ++ vowel.toList ++ tail.toList = sounds then
          some (0xAC00 + (l * hangulVowels.length + v) * hangulTails.length + t)
        else none

/-- The numbers of the unified ideographs. -/
def unifiedIdeographs : RangeTable :=
  .ofHex "3400-4DBF 4E00-9FFF 20000-2A6DF 2A700-2B738 2B740-2B81D 2B820-2CEA1 2CEB0-2EBE0
  30000-3134A"

/-- The unified ideograph with a hexadecimal number of four or five digits. -/
def ideographNumbered? (digits : List Char) : Option Nat :=
  let isDigit (c : Char) : Bool := c.isDigit || ('A' ≤ c && c ≤ 'F')
  if (digits.length = 4 ∨ digits.length = 5) ∧ digits.all isDigit
      ∧ unifiedIdeographs.contains (hexNumber digits) then
    some (hexNumber digits)
  else none

/-- What follows a given text at the front of a name. -/
def afterLead? (lead : String) (name : List Char) : Option (List Char) :=
  if lead.toList.isPrefixOf name then some (name.drop lead.length) else none

/-- The number of the character with a name. -/
def numberOfName? (name : List Char) : Option Nat :=
  match afterLead? "HANGUL SYLLABLE " name, afterLead? "CJK UNIFIED IDEOGRAPH-" name with
  | some sounds, _ => hangulNamed? sounds
  | none, some digits => ideographNumbered? digits
  | none, none => (listedName? nameText name).orElse fun _ => listedName? furtherNameText name

end AnnotatedMarkdown.Unicode
