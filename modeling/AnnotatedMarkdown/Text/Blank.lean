import AnnotatedMarkdown.Text.CodePoint

/-!
# Blank code points

Blank code points are the Unicode white space characters together with the four
separators of the C0 controls.  `trim`, `trimStart` and `trimEnd` remove them at
the ends of a text.
-/

namespace AnnotatedMarkdown

/-- Whether a code point number is blank. -/
def isBlankNumber (n : Nat) : Bool :=
  (9 ≤ n && n ≤ 13) || (28 ≤ n && n ≤ 32) || n == 0x85 || n == 0xA0 || n == 0x1680
    || (0x2000 ≤ n && n ≤ 0x200A) || n == 0x2028 || n == 0x2029 || n == 0x202F
    || n == 0x205F || n == 0x3000

/-- Whether a code point is blank. -/
def CodePoint.isBlank (c : CodePoint) : Bool :=
  isBlankNumber c.val

namespace Text

/-- Whether every code point of a text is blank. -/
def isBlank (t : Text) : Bool :=
  t.all CodePoint.isBlank

/-- A text without its trailing code points that satisfy `p`. -/
def trimEndBy (p : CodePoint → Bool) : Text → Text
  | [] => []
  | c :: t =>
    match trimEndBy p t with
    | [] => if p c then [] else [c]
    | trimmed => c :: trimmed

/-- A text without its leading blank code points. -/
def trimStart (t : Text) : Text :=
  t.dropWhile CodePoint.isBlank

/-- A text without its trailing blank code points. -/
def trimEnd (t : Text) : Text :=
  trimEndBy CodePoint.isBlank t

/-- A text without its blank code points at both ends. -/
def trim (t : Text) : Text :=
  trimEnd (trimStart t)

/-! ## Trimming -/

theorem trimEndBy_eq_nil_iff (p : CodePoint → Bool) (t : Text) :
    trimEndBy p t = [] ↔ t.all p = true := by
  induction t with
  | nil => simp [trimEndBy]
  | cons c t ih =>
    rw [trimEndBy]
    split
    · next h => simp_all
    · next h =>
      have : t.all p ≠ true := fun ht => h (ih.2 ht)
      simp_all

/-- A text is its trimmed form followed by code points that satisfy `p`. -/
theorem exists_append_trimEndBy (p : CodePoint → Bool) (t : Text) :
    ∃ tail, t = trimEndBy p t ++ tail ∧ tail.all p = true := by
  induction t with
  | nil => exact ⟨[], rfl, rfl⟩
  | cons c t ih =>
    obtain ⟨tail, htail, hall⟩ := ih
    rw [trimEndBy]
    split
    · next h =>
      rw [h] at htail
      split
      · exact ⟨c :: tail, by simp_all, by simp_all⟩
      · exact ⟨tail, by simp_all, hall⟩
    · exact ⟨tail, by rw [List.cons_append, ← htail], hall⟩

end Text

end AnnotatedMarkdown
