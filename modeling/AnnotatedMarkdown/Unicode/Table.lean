/-!
# Tables of character properties

A table is written as text: hexadecimal code point numbers, ranges of them with a
hyphen, and after an equals sign what a range stands for.  `RangeTable` is a set
of numbers, `RunTable` maps numbers to sequences of numbers, and `PairTable` maps
pairs of numbers to a number.
-/

namespace AnnotatedMarkdown.Unicode

/-- The value of a hexadecimal digit. -/
def hexDigit? (c : Char) : Option Nat :=
  if '0' ≤ c ∧ c ≤ '9' then some (c.toNat - 48)
  else if 'A' ≤ c ∧ c ≤ 'F' then some (c.toNat - 55)
  else if 'a' ≤ c ∧ c ≤ 'f' then some (c.toNat - 87)
  else none

/-- The number that hexadecimal digits stand for; other characters count as zero. -/
def hexNumber (digits : List Char) : Nat :=
  digits.foldl (fun n c => 16 * n + (hexDigit? c).getD 0) 0

/-- The pieces of a list of characters between the occurrences of a separator. -/
def pieces (separator : Char) : List Char → List (List Char)
  | [] => [[]]
  | c :: cs =>
    if c = separator then [] :: pieces separator cs
    else
      match pieces separator cs with
      | [] => [[c]]
      | piece :: rest => (c :: piece) :: rest

/-- The entries of a table: they are separated by spaces and line breaks. -/
def entries (table : String) : List (List Char) :=
  (pieces ' ' (table.toList.map fun c => if c = '\n' then ' ' else c)).filter (!·.isEmpty)

/-- A range of numbers, written as one number or as two with a hyphen. -/
def hexRange (cs : List Char) : Nat × Nat :=
  match pieces '-' cs with
  | [first, last] => (hexNumber first, hexNumber last)
  | _ => (hexNumber cs, hexNumber cs)

/-- The left and the right side of an entry. -/
def entrySides (cs : List Char) : List Char × List Char :=
  (cs.takeWhile (· != '='), (cs.dropWhile (· != '=')).drop 1)

/-- A set of numbers. -/
structure RangeTable where
  ranges : List (Nat × Nat)

/-- Reads a set of numbers. -/
def RangeTable.ofHex (s : String) : RangeTable :=
  ⟨(entries s).map hexRange⟩

/-- Whether a number is in a set. -/
def RangeTable.contains (t : RangeTable) (n : Nat) : Bool :=
  t.ranges.any fun r => r.1 ≤ n && n ≤ r.2

/-- The distance of a number from the first number of its range. -/
def RangeTable.offset? (t : RangeTable) (n : Nat) : Option Nat :=
  (t.ranges.find? fun r => r.1 ≤ n && n ≤ r.2).map fun r => n - r.1

/-- A range of numbers and the sequence that belongs to the first one. -/
structure Run where
  first : Nat
  last : Nat
  target : List Nat

/-- A partial map from numbers to sequences of numbers. -/
structure RunTable where
  runs : List Run

/-- Reads a map from numbers to sequences. -/
def RunTable.ofHex (s : String) : RunTable :=
  ⟨(entries s).map fun entry =>
    let (range, target) := entrySides entry
    let (first, last) := hexRange range
    ⟨first, last, (pieces '.' target).map hexNumber⟩⟩

/-- The run that holds a number. -/
def RunTable.run? (t : RunTable) (n : Nat) : Option Run :=
  t.runs.find? fun r => r.first ≤ n && n ≤ r.last

/-- A partial map from pairs of numbers to numbers. -/
structure PairTable where
  pairs : List (Nat × Nat × Nat)

/-- Reads a map from pairs of numbers. -/
def PairTable.ofHex (s : String) : PairTable :=
  ⟨(entries s).map fun entry =>
    let (pair, target) := entrySides entry
    match (pieces '.' pair).map hexNumber with
    | [a, b] => (a, b, hexNumber target)
    | _ => (0, 0, 0)⟩

/-- What a pair is mapped to. -/
def PairTable.lookup? (t : PairTable) (a b : Nat) : Option Nat :=
  (t.pairs.find? fun p => p.1 == a && p.2.1 == b).map fun p => p.2.2

end AnnotatedMarkdown.Unicode
