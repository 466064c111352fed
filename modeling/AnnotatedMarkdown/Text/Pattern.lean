import AnnotatedMarkdown.Text.CodePoint

/-!
# Patterns

A pattern is a sequence of items that match one after the other.  `match?` tries the ways
in which the items can match, the longest repetitions first, and takes the first way that
leads to the end of the pattern.  `replace` puts a text in place of every match: the
leftmost match comes first, and the search goes on behind it.

Lines end at line feeds only.
-/

namespace AnnotatedMarkdown.Text

/-- An item of a pattern: a code point with a property, any number of such code points,
or a place between code points. -/
inductive PatternItem where
  | one (p : CodePoint → Bool)
  | many (p : CodePoint → Bool)
  | lineStart
  | lineEnd

/-- A sequence of items.  A pattern that is replaced matches no empty text. -/
abbrev Pattern := List PatternItem

/-- Whether there is no code point, or it is a line feed. -/
def isLineBound (c : Option CodePoint) : Bool :=
  c.all CodePoint.isLineFeed

/-- Repeats a code point with a property as often as what comes next allows.  `next` is
asked with the code point before the rest and the rest. -/
def matchMany? (p : CodePoint → Bool) (next : Option CodePoint → Text → Option Text)
    (before : Option CodePoint) : Text → Option Text
  | [] => next before []
  | c :: t =>
    if p c then (matchMany? p next (some c) t).or (next before (c :: t))
    else next before (c :: t)

/-- What follows the match of a pattern at the front of a text; `before` is the code point
in front of the text, if there is one. -/
def match? : Pattern → (before : Option CodePoint) → Text → Option Text
  | [], _, t => some t
  | .one p :: items, _, t =>
    match t with
    | [] => none
    | c :: t => if p c then match? items (some c) t else none
  | .many p :: items, before, t => matchMany? p (match? items) before t
  | .lineStart :: items, before, t => if isLineBound before then match? items before t else none
  | .lineEnd :: items, before, t => if isLineBound t.head? then match? items before t else none

/-- A text with the matches of a pattern replaced, after a number of code points that
belong to a match already. -/
def replaceFrom (pattern : Pattern) (replacement : Text) (skipped : Nat)
    (before : Option CodePoint) : Text → Text
  | [] => []
  | c :: t =>
    match skipped with
    | skipped + 1 => replaceFrom pattern replacement skipped (some c) t
    | 0 =>
      match match? pattern before (c :: t) with
      | some rest =>
        replacement ++ replaceFrom pattern replacement (t.length - rest.length) (some c) t
      | none => c :: replaceFrom pattern replacement 0 (some c) t

/-- A text with the matches of a pattern replaced. -/
def replace (pattern : Pattern) (replacement : Text) (t : Text) : Text :=
  replaceFrom pattern replacement 0 none t

end AnnotatedMarkdown.Text
