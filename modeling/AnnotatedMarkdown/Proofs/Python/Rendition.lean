import AnnotatedMarkdown.Proofs.Python.ExpressionText
import AnnotatedMarkdown.Python.Printer

/-!
# Printed literals and what is read from them

A `Rendition` holds an expression together with all that comes of it: the characters that
are printed, the lexemes that are taken from them and the expression that is read.

* `Rendition.IsFaithful` says that the parts belong together.
* `isFaithful_bool`, `isFaithful_string`, `isFaithful_numeral` and `isFaithful_negative` are
  the literals without elements.
* `isFaithful_list` and `isFaithful_dict` build displays from the renditions of their elements.
* `parseExpression_printed` reads what was printed.
-/

namespace AnnotatedMarkdown.Python

/-- An expression, its characters, the lexemes of these and the expression read from them. -/
structure Rendition where
  printed : Expr
  chars : List Char
  lexemes : List Lexeme
  read : Expr

namespace Rendition

/-- The parts of a rendition belong together; at most `depth` brackets are open within its
characters. -/
structure IsFaithful (depth : Nat) (r : Rendition) : Prop where
  text : r.printed.render false .test = some (Text.ofChars r.chars)
  spelled : IsSpelled depth r.chars r.lexemes
  element : IsElement r.lexemes r.read

/-- What is printed for a faithful rendition is read. -/
theorem parseExpression_printed {depth : Nat} {r : Rendition} (h : r.IsFaithful depth)
    (hdepth : depth ≤ maxBrackets) :
    ∃ text, printExpression r.printed = some text ∧ parseExpression text = .ok r.read :=
  ⟨_, h.text, parseExpression_of_isSpelled h.spelled hdepth h.element⟩

/-! ## Constants -/

theorem isFaithful_bool (depth : Nat) (b : Bool) :
    IsFaithful depth
      { printed := .constant (if b then .true else .false)
        chars := (if b then Word.true else Word.false).chars
        lexemes := [.word (if b then .true else .false)]
        read := .constant (if b then .true else .false) } where
  text := by cases b <;> rfl
  spelled := isSpelled_bool b depth
  element := isElement_bool b

theorem isFaithful_string (depth : Nat) {t : Text} {spelling : List Char} (h : IsSpelling t spelling) :
    IsFaithful depth
      { printed := .constant (.string t false)
        chars := spelling
        lexemes := [.string spelling]
        read := .constant (.string t false) } where
  text := congrArg some h.text
  spelled := isSpelled_string h depth
  element := isElement_string h

theorem isFaithful_numeral (depth : Nat) {value : Constant} {cs : List Char}
    (h : IsNumeral value cs) (htext : value.render false = some (Text.ofChars cs)) :
    IsFaithful depth
      { printed := .constant value
        chars := cs
        lexemes := [.number cs]
        read := .constant value } where
  text := htext
  spelled := isSpelled_numeral h depth
  element := isElement_numeral h

/-- A minus sign is read as an operator, also if it is printed as a part of a constant. -/
theorem isFaithful_negative (depth : Nat) {value : Constant} {cs : List Char} {printed : Expr}
    (h : IsNumeral value cs)
    (htext : printed.render false .test = some (Text.ofChars ('-' :: cs))) :
    IsFaithful depth
      { printed
        chars := '-' :: cs
        lexemes := [.op .minus, .number cs]
        read := .unary .minus (.constant value) } where
  text := htext
  spelled := isSpelled_negative h depth
  element := isElement_negative h

theorem render_negative {value : Constant} {cs : List Char}
    (htext : value.render false = some (Text.ofChars cs)) :
    (Expr.unary .minus (.constant value)).render false .test = some (Text.ofChars ('-' :: cs)) := by
  simp only [Expr.render, htext]
  rfl

/-! ## Displays -/

theorem join_cons (separator piece : Text) (pieces : List Text) :
    Text.join separator (piece :: pieces) = piece ++ pieces.flatMap (separator ++ ·) := by
  induction pieces generalizing piece with
  | nil => simp [Text.join]
  | cons next pieces ih =>
    rw [Text.join, ih, List.flatMap_cons]
    · simp
    · simp

/-- Texts are printed with commas and spaces between them. -/
theorem commaSeparated_ofChars (pieces : List (List Char)) :
    commaSeparated (pieces.map Text.ofChars) = Text.ofChars (commaText pieces) := by
  cases pieces with
  | nil => rfl
  | cons piece pieces =>
    rw [commaSeparated, List.map_cons, join_cons, commaText, ofChars_append]
    congr 1
    induction pieces with
    | nil => rfl
    | cons next pieces ih =>
      rw [List.map_cons, List.flatMap_cons, List.flatMap_cons, ih, ofChars_append]
      rfl

theorem renderAll_printed {depth : Nat} {rs : List Rendition} (h : ∀ r ∈ rs, r.IsFaithful depth) :
    renderAll false .test (rs.map printed) = some ((rs.map chars).map Text.ofChars) := by
  induction rs with
  | nil => rfl
  | cons r rs ih =>
    have hfirst := (h r List.mem_cons_self).text
    have hrest := ih fun other hother => h other (List.mem_cons_of_mem r hother)
    simp only [List.map_cons, renderAll, hfirst, hrest]
    rfl

/-- A list display of faithful renditions is faithful. -/
theorem isFaithful_list {depth : Nat} {rs : List Rendition} (h : ∀ r ∈ rs, r.IsFaithful depth) :
    IsFaithful (depth + 1)
      { printed := .list (rs.map printed)
        chars := '[' :: (commaText (rs.map chars) ++ [']'])
        lexemes := .op .lSqb :: (commaJoined (rs.map lexemes) ++ [.op .rSqb])
        read := .list (rs.map read) } where
  text := by
    simp only [Expr.render, renderAll_printed h, bind, Option.bind, commaSeparated_ofChars]
    simp [Text.concat, Text.ofChars, Text.ofString]
  spelled := by
    have hitems : ∀ i ∈ rs.map fun r => (r.chars, r.lexemes), IsSpelled depth i.1 i.2 := by
      intro i hi
      obtain ⟨r, hr, rfl⟩ := List.mem_map.1 hi
      exact (h r hr).spelled
    have hspelled := isSpelled_bracketed (.inl ⟨rfl, rfl⟩) hitems
    rw [List.map_map, List.map_map] at hspelled
    exact hspelled
  element := by
    have helements : ∀ i ∈ rs.map fun r => (r.lexemes, r.read), IsElement i.1 i.2 := by
      intro i hi
      obtain ⟨r, hr, rfl⟩ := List.mem_map.1 hi
      exact (h r hr).element
    have hlist := isElement_list helements
    rw [List.map_map, List.map_map] at hlist
    exact hlist

/-- A key of a mapping with its value. -/
structure Pair where
  key : Rendition
  value : Rendition

namespace Pair

/-- The characters of a pair. -/
def chars (p : Pair) : List Char :=
  p.key.chars ++ ':' :: ' ' :: p.value.chars

/-- The lexemes of a pair. -/
def lexemes (p : Pair) : List Lexeme :=
  p.key.lexemes ++ .op .colon :: p.value.lexemes

/-- The pair that is printed. -/
def printed (p : Pair) : DictItem :=
  .pair p.key.printed p.value.printed

/-- The pair that is read. -/
def read (p : Pair) : DictItem :=
  .pair p.key.read p.value.read

/-- Both parts of a pair are faithful. -/
def IsFaithful (depth : Nat) (p : Pair) : Prop :=
  p.key.IsFaithful depth ∧ p.value.IsFaithful depth

theorem render_printed {depth : Nat} {p : Pair} (h : p.IsFaithful depth) :
    p.printed.render false = some (Text.ofChars p.chars) := by
  obtain ⟨hkey, hvalue⟩ := h
  simp only [printed, DictItem.render, hkey.text, hvalue.text]
  simp [Text.concat, Text.ofChars, Text.ofString, chars]

end Pair

theorem renderItems_printed {depth : Nat} {ps : List Pair} (h : ∀ p ∈ ps, p.IsFaithful depth) :
    renderItems false (ps.map Pair.printed) = some ((ps.map Pair.chars).map Text.ofChars) := by
  induction ps with
  | nil => rfl
  | cons p ps ih =>
    have hfirst := Pair.render_printed (h p List.mem_cons_self)
    have hrest := ih fun other hother => h other (List.mem_cons_of_mem p hother)
    simp only [List.map_cons, renderItems, hfirst, hrest]
    rfl

/-- A mapping of faithful pairs is faithful. -/
theorem isFaithful_dict {depth : Nat} {ps : List Pair} (h : ∀ p ∈ ps, p.IsFaithful depth) :
    IsFaithful (depth + 1)
      { printed := .dict (ps.map Pair.printed)
        chars := '{' :: (commaText (ps.map Pair.chars) ++ ['}'])
        lexemes := .op .lBrace :: (commaJoined (ps.map Pair.lexemes) ++ [.op .rBrace])
        read := .dict (ps.map Pair.read) } where
  text := by
    simp only [Expr.render, renderItems_printed h, bind, Option.bind, commaSeparated_ofChars]
    simp [Text.concat, Text.ofChars, Text.ofString]
  spelled := by
    have hitems : ∀ i ∈ ps.map fun p => (p.chars, p.lexemes), IsSpelled depth i.1 i.2 := by
      intro i hi
      obtain ⟨p, hp, rfl⟩ := List.mem_map.1 hi
      exact isSpelled_pair (h p hp).1.spelled (h p hp).2.spelled
    have hspelled := isSpelled_bracketed (.inr ⟨rfl, rfl⟩) hitems
    rw [List.map_map, List.map_map] at hspelled
    exact hspelled
  element := by
    have hpairs : ∀ i ∈ ps.map fun p => (p.lexemes, p.read), IsPair i.1 i.2 := by
      intro i hi
      obtain ⟨p, hp, rfl⟩ := List.mem_map.1 hi
      exact ⟨_, _, _, _, (h p hp).1.element, (h p hp).2.element, rfl, rfl⟩
    have hdict := isElement_dict hpairs
    rw [List.map_map, List.map_map] at hdict
    exact hdict

end Rendition

end AnnotatedMarkdown.Python
