import AnnotatedMarkdown.Python.Literal

/-!
# Digits of natural numbers

`Nat.toDigits` writes a number and `digitsValue` reads it.

* `digitsValue_toDigits` reads back what was written, in every base up to sixteen.
* `head?_toDigits_ne` says that only zero starts with the digit zero.
-/

namespace AnnotatedMarkdown.Python

open Unicode

/-- The number that digits of a base stand for, after digits that stand for another. -/
def digitsValueFrom (base start : Nat) (digits : List Char) : Nat :=
  digits.foldl (fun n c => base * n + (hexDigit? c).getD 0) start

theorem digitsValue_eq_digitsValueFrom (base : Nat) (digits : List Char) :
    digitsValue base digits = digitsValueFrom base 0 digits :=
  rfl

theorem digitsValue_append (base : Nat) (digits more : List Char) :
    digitsValue base (digits ++ more) = digitsValueFrom base (digitsValue base digits) more := by
  simp [digitsValue, digitsValueFrom]

/-- Leading zeros count for nothing. -/
theorem digitsValueFrom_zeros (base k : Nat) (digits : List Char) :
    digitsValueFrom base 0 (List.replicate k '0' ++ digits) = digitsValueFrom base 0 digits := by
  induction k with
  | zero => rfl
  | succ k ih =>
    rw [List.replicate_succ, List.cons_append, ← ih]
    rfl

/-- Every trailing zero multiplies by the base. -/
theorem digitsValueFrom_replicate (base start k : Nat) :
    digitsValueFrom base start (List.replicate k '0') = start * Nat.pow base k := by
  induction k generalizing start with
  | zero => exact (Nat.mul_one start).symm
  | succ k ih =>
    have hfirst : digitsValueFrom base start (List.replicate (k + 1) '0') =
        digitsValueFrom base (base * start) (List.replicate k '0') :=
      rfl
    have hpow : Nat.pow base (k + 1) = Nat.pow base k * base := rfl
    rw [hfirst, ih, hpow, Nat.mul_comm base start, Nat.mul_assoc, Nat.mul_comm base]

theorem hexDigit?_digitChar {d : Nat} (h : d < 16) : hexDigit? (Nat.digitChar d) = some d := by
  have hall : ∀ d : Fin 16, hexDigit? (Nat.digitChar d) = some d.val := by decide
  exact hall ⟨d, h⟩

/-- A number is read back from its digits. -/
theorem digitsValue_toDigits {base : Nat} (hlow : 1 < base) (hhigh : base ≤ 16) (n : Nat) :
    digitsValue base (Nat.toDigits base n) = n := by
  induction n using Nat.strongRecOn with
  | ind n ih =>
    rcases Nat.lt_or_ge n base with h | h
    · rw [Nat.toDigits_of_lt_base h]
      simp [digitsValue, hexDigit?_digitChar (Nat.lt_of_lt_of_le h hhigh)]
    · have hlast : n % base < base := Nat.mod_lt n (by omega)
      have hless : n / base < n := Nat.div_lt_self (by omega) hlow
      rw [Nat.toDigits_of_base_le hlow h, digitsValue_append, ih (n / base) hless]
      simp [digitsValueFrom, hexDigit?_digitChar (Nat.lt_of_lt_of_le hlast hhigh), Nat.div_add_mod]

/-- Decimal digits are digits. -/
theorem isDigit_of_mem_toDigits {n : Nat} {c : Char} (h : c ∈ Nat.toDigits 10 n) :
    c.isDigit = true :=
  Nat.isDigit_of_mem_toDigits (by decide) (by decide) h

/-- The digits of a number other than zero do not start with zero. -/
theorem head?_toDigits_ne {n : Nat} (hn : n ≠ 0) : (Nat.toDigits 10 n).head? ≠ some '0' := by
  induction n using Nat.strongRecOn with
  | ind n ih =>
    rcases Nat.lt_or_ge n 10 with h | h
    · rw [Nat.toDigits_of_lt_base h]
      have hall : ∀ d : Fin 10, d.val ≠ 0 → some (Nat.digitChar d) ≠ some '0' := by decide
      exact hall ⟨n, h⟩ hn
    · rw [Nat.toDigits_of_base_le (by decide) h, List.head?_append]
      have hrest := ih (n / 10) (Nat.div_lt_self (by omega) (by decide)) (by omega)
      cases hhead : (Nat.toDigits 10 (n / 10)).head? with
      | none => exact absurd (List.head?_eq_none_iff.1 hhead) (Nat.toDigits_ne_nil)
      | some c =>
        rw [hhead] at hrest
        exact hrest

end AnnotatedMarkdown.Python
