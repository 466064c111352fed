import AnnotatedMarkdown.Unicode.NormalizationTable

/-!
# Compatibility normalization

Normalization form KC for the characters that occur in identifiers: every
character is decomposed, runs of combining marks are put in the order of their
classes, and what has a primary composite is composed again.
-/

namespace AnnotatedMarkdown.Unicode

/-! ## Hangul syllables -/

/-- The decomposition of a Hangul syllable into its letters. -/
def decomposeHangul? (n : Nat) : Option (List Nat) :=
  if 0xAC00 ≤ n ∧ n ≤ 0xD7A3 then
    let s := n - 0xAC00
    let lead := 0x1100 + s / 588
    let vowel := 0x1161 + s % 588 / 28
    let tail := s % 28
    some (if tail = 0 then [lead, vowel] else [lead, vowel, 0x11A7 + tail])
  else none

/-- The Hangul syllable of a lead and a vowel, or of a syllable and a tail. -/
def composeHangul? (a b : Nat) : Option Nat :=
  if 0x1100 ≤ a ∧ a < 0x1113 ∧ 0x1161 ≤ b ∧ b < 0x1176 then
    some (0xAC00 + (a - 0x1100) * 588 + (b - 0x1161) * 28)
  else if 0xAC00 ≤ a ∧ a ≤ 0xD7A3 ∧ (a - 0xAC00) % 28 = 0 ∧ 0x11A7 < b ∧ b < 0x11C3 then
    some (a + (b - 0x11A7))
  else none

/-! ## Decomposition, order and composition -/

/-- The full compatibility decomposition of a code point.  An ASCII character is its
own. -/
def decompose (n : Nat) : List Nat :=
  if n < 128 then [n]
  else
    match decomposeHangul? n with
    | some letters => letters
    | none =>
      match compatibility.run? n with
      | some ⟨first, _, [target]⟩ => [target + (n - first)]
      | some run => run.target
      | none => [n]

/-- The combining class of a code point.  No ASCII character is a mark. -/
def classOf (n : Nat) : Nat :=
  if n < 128 then 0
  else
    match combiningClass.run? n with
    | some ⟨_, _, c :: _⟩ => c
    | _ => 0

/-- Moves a mark in front of the marks of greater class that end a sequence; the
sequence is given from its end. -/
def insertMark (mark : Nat × Nat) : List (Nat × Nat) → List (Nat × Nat)
  | [] => [mark]
  | last :: before =>
    if mark.2 ≠ 0 ∧ mark.2 < last.2 then last :: insertMark mark before
    else mark :: last :: before

/-- Puts runs of combining marks in the order of their classes. -/
def canonicalOrder (ns : List Nat) : List (Nat × Nat) :=
  (ns.foldl (fun ordered n => insertMark (n, classOf n) ordered) []).reverse

/-- The composite of two code points.  The second one is never an ASCII character. -/
def compose? (a b : Nat) : Option Nat :=
  if b < 128 then none
  else
    match composeHangul? a b with
    | some n => some n
    | none => composites.lookup? a b

/-- What composition has read: the code points before the last starter, from the
end, the last starter, and the marks after it that stay, from the end. -/
structure Composition where
  before : List Nat
  starter : Option Nat
  marks : List (Nat × Nat)

/-- Adds a code point: it joins the last starter if no mark in between blocks it. -/
def Composition.add (c : Composition) (next : Nat × Nat) : Composition :=
  let flush : Composition :=
    ⟨c.marks.map (·.1) ++ c.starter.toList ++ c.before, some next.1, []⟩
  match c.starter with
  | none => if next.2 = 0 then flush else { c with before := next.1 :: c.before }
  | some s =>
    let blocked :=
      match c.marks with
      | [] => false
      | m :: _ => m.2 ≥ next.2
    match if blocked then none else compose? s next.1 with
    | some n => { c with starter := some n }
    | none => if next.2 = 0 then flush else { c with marks := next :: c.marks }

/-- Composes an ordered sequence. -/
def composeAll (ordered : List (Nat × Nat)) : List Nat :=
  let c := ordered.foldl Composition.add ⟨[], none, []⟩
  (c.marks.map (·.1) ++ c.starter.toList ++ c.before).reverse

/-- Normalization form KC of the characters of an identifier. -/
def normalizeIdentifier (cs : List Char) : List Char :=
  if cs.all (·.toNat < 128) then cs
  else (composeAll (canonicalOrder ((cs.map Char.toNat).flatMap decompose))).map Char.ofNat

end AnnotatedMarkdown.Unicode
