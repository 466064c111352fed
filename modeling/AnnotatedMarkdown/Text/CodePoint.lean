/-!
# Code points and texts

A `Text` is a list of Unicode code points.  Unlike `String` it can hold a lone
surrogate half, which an escape sequence in a quoted scalar or a string literal
can name.  `Text.chars?` gives the characters of a text that holds none.
-/

namespace AnnotatedMarkdown

/-- A Unicode code point: a scalar value, or one half of a surrogate pair. -/
inductive CodePoint where
  | scalar (c : Char)
  | surrogate (offset : Fin 0x800)
  deriving DecidableEq

namespace CodePoint

instance : Inhabited CodePoint := ⟨.scalar ' '⟩

instance : Coe Char CodePoint := ⟨scalar⟩

/-- The number of a code point. -/
def val : CodePoint → Nat
  | scalar c => c.toNat
  | surrogate offset => 0xD800 + offset

/-- The code point with a given number, if the number is at most `0x10FFFF`. -/
def ofNat? (n : Nat) : Option CodePoint :=
  if h : n.isValidChar then some (.scalar (Char.ofNatAux n h))
  else if h : 0xD800 ≤ n ∧ n < 0xE000 then some (.surrogate ⟨n - 0xD800, by omega⟩)
  else none

/-- The character of a scalar value. -/
def char? : CodePoint → Option Char
  | scalar c => some c
  | surrogate _ => none

/-- Whether a code point is a scalar value with a given property. -/
def satisfies (p : Char → Bool) : CodePoint → Bool
  | scalar c => p c
  | surrogate _ => false

/-- Whether a code point is a line feed. -/
def isLineFeed (c : CodePoint) : Bool :=
  c == .scalar '\n'

@[simp] theorem char?_scalar (c : Char) : char? (.scalar c) = some c := rfl

@[simp] theorem satisfies_scalar (p : Char → Bool) (c : Char) :
    (scalar c).satisfies p = p c := rfl

end CodePoint

/-- A sequence of code points. -/
abbrev Text := List CodePoint

namespace Text

/-- The text with given characters. -/
def ofChars (cs : List Char) : Text :=
  cs.map .scalar

/-- The text of a string. -/
def ofString (s : String) : Text :=
  ofChars s.toList

instance : Coe String Text := ⟨ofString⟩

/-- The characters of a text without surrogate halves. -/
def chars? (t : Text) : Option (List Char) :=
  t.mapM CodePoint.char?

/-- The concatenation of several texts. -/
def concat (pieces : List Text) : Text :=
  pieces.flatten

/-- The pieces with a separator between each two of them. -/
def join (separator : Text) : List Text → Text
  | [] => []
  | [piece] => piece
  | piece :: pieces => piece ++ separator ++ join separator pieces

/-- The text before and the text after the first code point that fails `p`. -/
def spanBy (p : CodePoint → Bool) (t : Text) : Text × Text :=
  (t.takeWhile p, t.dropWhile p)

/-- What follows a leading text, if the text starts with it. -/
def after? : (lead : Text) → Text → Option Text
  | [], t => some t
  | _ :: _, [] => none
  | c :: lead, d :: t => if c = d then after? lead t else none

/-- Whether `part` occurs in a text. -/
def occursIn (part : Text) : Text → Bool
  | [] => part.isEmpty
  | c :: t => (after? part (c :: t)).isSome || occursIn part t

/-- The pieces of a text between the code points that satisfy `p`. -/
def splitBy (p : CodePoint → Bool) : Text → List Text
  | [] => [[]]
  | c :: t =>
    if p c then [] :: splitBy p t
    else
      match splitBy p t with
      | [] => [[c]]
      | piece :: pieces => (c :: piece) :: pieces

/-- The decimal digits of a natural number. -/
def ofNat (n : Nat) : Text :=
  ofChars (Nat.toDigits 10 n)

/-- The decimal digits of an integer, after a minus sign if it is negative. -/
def ofInt : Int → Text
  | .ofNat n => ofNat n
  | .negSucc n => .scalar '-' :: ofNat (n + 1)

@[simp] theorem chars?_ofChars (cs : List Char) : chars? (ofChars cs) = some cs := by
  induction cs with
  | nil => rfl
  | cons c cs ih =>
    simp only [chars?, ofChars, List.map_cons, List.mapM_cons, CodePoint.char?_scalar] at ih ⊢
    rw [ih]
    rfl

/-- A text without surrogate halves is made of its characters. -/
theorem eq_ofChars_of_chars? {t : Text} {cs : List Char} (h : t.chars? = some cs) :
    t = ofChars cs := by
  induction t generalizing cs with
  | nil =>
    obtain rfl : [] = cs := by simpa [chars?] using h
    rfl
  | cons p t ih =>
    cases p with
    | surrogate => simp [chars?, CodePoint.char?] at h
    | scalar c =>
      simp only [chars?, List.mapM_cons, CodePoint.char?_scalar, Option.pure_def,
        Option.bind_eq_bind, Option.bind_some] at h
      obtain ⟨cs', hcs', h⟩ := Option.bind_eq_some_iff.1 h
      obtain rfl : c :: cs' = cs := by simpa using h
      rw [ih hcs']
      rfl

theorem after?_append (lead t : Text) : after? lead (lead ++ t) = some t := by
  induction lead with
  | nil => rfl
  | cons c lead ih => simp [after?, ih]

theorem eq_append_of_after? {lead t rest : Text} (h : after? lead t = some rest) :
    t = lead ++ rest := by
  fun_induction after? lead t with
  | case1 t => simp_all
  | case2 => simp at h
  | case3 lead d t ih => simp [ih h]
  | case4 => simp at h

end Text

end AnnotatedMarkdown
