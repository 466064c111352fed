import AnnotatedMarkdown.Proofs.Number.Decimal
import AnnotatedMarkdown.Proofs.Python.NumberLiteral

/-!
# Literals of binary64 numbers

The shortest text of a binary64 number is a numeral of the number.

* `Parts.decimalValue_chars` reads the decimal number that the parts of a spelling stand for.
* `Parts.Writes` says that parts stand for a decimal number, and `exists_writes` finds such
  parts in `magnitudeText`, with one lemma for each layout.
* `isNumeral_magnitudeText` joins this with the rounding of the decimal number.
-/

namespace AnnotatedMarkdown.Python

open Binary64

/-- A number that overflows is the literal of infinity. -/
theorem isNumeral_infinite : IsNumeral (.float (.infinite false)) ['1', 'e', '3', '0', '9'] := by
  let p : Parts :=
    { whole := ['1'], fraction := [], sign := [], exponent := ['3', '0', '9']
      whole_digits := by simp [AreDigits]
      fraction_digits := by simp
      exponent_digits := by simp
      sign_mem := by simp
      marked := by simp }
  have hvalue : decimalValue p.chars = .infinite false := by decide +kernel
  have hnumeral := p.isNumeral
  rw [hvalue] at hnumeral
  exact hnumeral

/-! ## The value of a spelling -/

namespace Parts

/-- The mark and the sign of an exponent count for nothing without digits. -/
def exponentValue (p : Parts) : Int :=
  Python.exponentValue (p.exponentText.drop 1)

/-- A part of a list up to the first element without a property. -/
theorem takeWhile_append_stop (p : Char → Bool) {before after : List Char}
    (hbefore : ∀ c ∈ before, p c = true) (hafter : ∀ c ∈ after.head?, p c = false) :
    (before ++ after).takeWhile p = before ∧ (before ++ after).dropWhile p = after := by
  rw [List.takeWhile_append_of_pos hbefore, List.dropWhile_append_of_pos hbefore]
  cases after with
  | nil => simp
  | cons c after => simp [hafter c rfl]

theorem decimalValue_chars (p : Parts) :
    decimalValue p.chars = .ofDecimal false (digitsValue 10 (p.whole ++ p.fraction))
      (p.exponentValue - p.fraction.length) := by
  have hmark : ∀ c, c.isDigit = true ∨ c = '.' → (!(c == 'e' || c == 'E')) = true := by
    rintro c (hc | rfl)
    · simp [ne_of_isDigit hc (d := 'e') rfl, ne_of_isDigit hc (d := 'E') rfl]
    · rfl
  have hpointText : ∀ c ∈ p.pointText, c.isDigit = true ∨ c = '.' := by
    intro c hc
    rw [pointText] at hc
    split at hc
    · simp at hc
    · rcases List.mem_cons.1 hc with rfl | hc
      · exact .inr rfl
      · exact .inl (p.fraction_digits c hc)
  have hleft : ∀ c ∈ p.whole ++ p.pointText, (!(c == 'e' || c == 'E')) = true := by
    intro c hc
    rcases List.mem_append.1 hc with hc | hc
    · exact hmark c (.inl (p.whole_digits.2 c hc))
    · exact hmark c (hpointText c hc)
  have hright : ∀ c ∈ p.exponentText.head?, (!(c == 'e' || c == 'E')) = false := by
    intro c hc
    rw [exponentText] at hc
    split at hc
    · simp at hc
    · obtain rfl : 'e' = c := by simpa using hc
      rfl
  have hmantissa := takeWhile_append_stop (fun c => !(c == 'e' || c == 'E')) hleft hright
  have hdigits : ∀ c ∈ p.whole, (c != '.') = true := by
    intro c hc
    simpa using ne_of_isDigit (p.whole_digits.2 c hc) (d := '.') rfl
  have hpoint : ∀ c ∈ p.pointText.head?, (c != '.') = false := by
    intro c hc
    rw [pointText] at hc
    split at hc
    · simp at hc
    · obtain rfl : '.' = c := by simpa using hc
      rfl
  have hwhole := takeWhile_append_stop (· != '.') hdigits hpoint
  have hfraction : p.pointText.drop 1 = p.fraction := by
    rw [pointText]
    split
    · simp_all
    · rfl
  have hchars : p.chars = (p.whole ++ p.pointText) ++ p.exponentText := by
    rw [chars, List.append_assoc]
  rw [decimalValue]
  simp only [hchars, hmantissa.1, hmantissa.2, hwhole.1, hwhole.2, hfraction]
  rfl

/-- Parts that are the text of a decimal number: they stand for it, possibly with more
zeros among the digits. -/
def Writes (p : Parts) (d : Decimal) : Prop :=
  p.chars = magnitudeText true d ∧
    ∃ k : Nat, digitsValue 10 (p.whole ++ p.fraction) = d.digits * Nat.pow 10 k ∧
      p.exponentValue - p.fraction.length = d.power - k

/-- Parts that are the text of a decimal number have its value. -/
theorem Writes.value {p : Parts} {d : Decimal} (h : p.Writes d) :
    Decimal.value ⟨digitsValue 10 (p.whole ++ p.fraction), p.exponentValue - p.fraction.length⟩ =
      d.value := by
  obtain ⟨-, k, hdigits, hpower⟩ := h
  rw [Decimal.value, Decimal.value]
  simp only [hdigits, hpower, Nat.pow_eq]
  push_cast
  rw [mul_assoc, ← zpow_natCast, ← zpow_add₀ (by norm_num)]
  congr 2
  ring

end Parts

/-! ## Layouts -/

/-- The place of the point, counted from the first digit. -/
def pointPlace (d : Decimal) : Int :=
  ((Nat.toDigits 10 d.digits).length : Int) + d.power

theorem isDigit_of_mem_zeros {k : Nat} {c : Char} (h : c ∈ zeros k) : c.isDigit = true := by
  obtain ⟨-, rfl⟩ := List.mem_replicate.1 h
  rfl

theorem digitsValue_zeros_append (k : Nat) (cs : List Char) :
    digitsValue 10 (zeros k ++ cs) = digitsValue 10 cs :=
  digitsValueFrom_zeros 10 k cs

theorem digitsValue_append_zeros (cs : List Char) (k : Nat) :
    digitsValue 10 (cs ++ zeros k) = digitsValue 10 cs * Nat.pow 10 k := by
  rw [digitsValue_append, zeros, digitsValueFrom_replicate]

theorem digitsValue_toDigits_ten (n : Nat) : digitsValue 10 (Nat.toDigits 10 n) = n :=
  digitsValue_toDigits (by decide) (by decide) n

/-- A number less than one: zeros stand between the point and the digits. -/
theorem exists_writes_small {d : Decimal} (hlow : -4 < pointPlace d) (hhigh : pointPlace d ≤ 0) :
    ∃ p : Parts, p.Writes d := by
  obtain ⟨hne, hall⟩ := areDigits_toDigits d.digits
  let k := (-(pointPlace d)).toNat
  let p : Parts :=
    { whole := ['0'], fraction := zeros k ++ Nat.toDigits 10 d.digits, sign := [], exponent := []
      whole_digits := by simp [AreDigits]
      fraction_digits := by
        intro c hc
        rcases List.mem_append.1 hc with hc | hc
        · exact isDigit_of_mem_zeros hc
        · exact hall c hc
      exponent_digits := by simp
      sign_mem := by simp
      marked := .inl (by simp [hne]) }
  refine ⟨p, ?_, 0, ?_, ?_⟩
  · have htext : magnitudeText true d = ['0'] ++ '.' :: (zeros k ++ Nat.toDigits 10 d.digits) := by
      rw [magnitudeText]
      simp only [← pointPlace.eq_1 d, positional, hlow, hhigh, hhigh.trans (by decide : (0 : Int) ≤ 16),
        and_self, if_true]
      simp [k, hne]
    rw [htext]
    simp [p, Parts.chars, Parts.pointText, Parts.exponentText, hne]
  · change digitsValue 10 (zeros (k + 1) ++ Nat.toDigits 10 d.digits) = _
    rw [digitsValue_zeros_append, digitsValue_toDigits_ten]
    exact (Nat.mul_one _).symm
  · have hlength : (p.fraction.length : Int) = k + (Nat.toDigits 10 d.digits).length := by
      simp [p, zeros]
    have hexponent : p.exponentValue = 0 := rfl
    have hplace := pointPlace.eq_1 d
    omega

/-- A whole number: zeros stand between the digits and the point. -/
theorem exists_writes_whole {d : Decimal} (hlow : 0 < pointPlace d) (hhigh : pointPlace d ≤ 16)
    (hpower : 0 ≤ d.power) : ∃ p : Parts, p.Writes d := by
  obtain ⟨hne, hall⟩ := areDigits_toDigits d.digits
  have hplace := pointPlace.eq_1 d
  let k := d.power.toNat
  let p : Parts :=
    { whole := Nat.toDigits 10 d.digits ++ zeros k, fraction := ['0'], sign := [], exponent := []
      whole_digits := by
        refine ⟨by simp [hne], fun c hc => ?_⟩
        rcases List.mem_append.1 hc with hc | hc
        · exact hall c hc
        · exact isDigit_of_mem_zeros hc
      fraction_digits := by simp
      exponent_digits := by simp
      sign_mem := by simp
      marked := .inl (by simp) }
  refine ⟨p, ?_, k + 1, ?_, ?_⟩
  · have htake : (Nat.toDigits 10 d.digits).take (pointPlace d).toNat = Nat.toDigits 10 d.digits :=
      List.take_of_length_le (by omega)
    have hdrop : (Nat.toDigits 10 d.digits).drop (pointPlace d).toNat = [] :=
      List.drop_eq_nil_of_le (by omega)
    have hzeros : (pointPlace d).toNat - (Nat.toDigits 10 d.digits).length = k := by omega
    have htext : magnitudeText true d = Nat.toDigits 10 d.digits ++ zeros k ++ ['.', '0'] := by
      rw [magnitudeText]
      simp only [← hplace, positional, if_neg (not_le.2 hlow), htake, hdrop, hzeros, hhigh, and_true,
        (by omega : -4 < pointPlace d), if_true, List.isEmpty_nil]
    rw [htext]
    simp [p, Parts.chars, Parts.pointText, Parts.exponentText]
  · have hjoin : p.whole ++ p.fraction = Nat.toDigits 10 d.digits ++ zeros (k + 1) := by
      simp [p, zeros, List.replicate_succ']
    rw [hjoin, digitsValue_append_zeros, digitsValue_toDigits_ten]
  · have hlength : p.fraction.length = 1 := rfl
    have hexponent : p.exponentValue = 0 := rfl
    omega

/-- The point stands between two digits. -/
theorem exists_writes_pointed {d : Decimal} (hlow : 0 < pointPlace d) (hhigh : pointPlace d ≤ 16)
    (hpower : d.power < 0) : ∃ p : Parts, p.Writes d := by
  obtain ⟨hne, hall⟩ := areDigits_toDigits d.digits
  have hplace := pointPlace.eq_1 d
  let n := (pointPlace d).toNat
  have hinside : n < (Nat.toDigits 10 d.digits).length := by omega
  let p : Parts :=
    { whole := (Nat.toDigits 10 d.digits).take n, fraction := (Nat.toDigits 10 d.digits).drop n
      sign := [], exponent := []
      whole_digits := by
        refine ⟨?_, fun c hc => hall c (List.mem_of_mem_take hc)⟩
        rw [← List.length_pos_iff, List.length_take]
        omega
      fraction_digits := fun c hc => hall c (List.mem_of_mem_drop hc)
      exponent_digits := by simp
      sign_mem := by simp
      marked := .inl (by
        rw [← List.length_pos_iff, List.length_drop]
        omega) }
  have hfraction : p.fraction ≠ [] := p.marked.resolve_right (by simp [p])
  refine ⟨p, ?_, 0, ?_, ?_⟩
  · have hzeros : n - (Nat.toDigits 10 d.digits).length = 0 := by omega
    have htext : magnitudeText true d = p.whole ++ '.' :: p.fraction := by
      rw [magnitudeText]
      simp only [← hplace, positional, if_neg (not_le.2 hlow), hhigh, and_true,
        (by omega : -4 < pointPlace d), if_true]
      rw [if_neg (by simpa [p, n] using hfraction)]
      simp [p, n, hzeros, zeros]
    rw [htext]
    simp [Parts.chars, Parts.pointText, Parts.exponentText, hfraction, p]
  · have hjoin : p.whole ++ p.fraction = Nat.toDigits 10 d.digits := List.take_append_drop n _
    rw [hjoin, digitsValue_toDigits_ten]
    exact (Nat.mul_one _).symm
  · have hlength : p.fraction.length = (Nat.toDigits 10 d.digits).length - n := List.length_drop
    have hexponent : p.exponentValue = 0 := rfl
    omega

/-- The digits of an exponent; there are two of them at least. -/
def exponentDigits (e : Int) : List Char :=
  let digits := Nat.toDigits 10 e.natAbs
  if digits.length < 2 then '0' :: digits else digits

/-- The sign of an exponent. -/
def exponentSign (e : Int) : Char :=
  if e < 0 then '-' else '+'

theorem exponentText_eq (e : Int) : exponentText e = exponentSign e :: exponentDigits e :=
  rfl

theorem areDigits_exponentDigits (e : Int) : AreDigits (exponentDigits e) := by
  obtain ⟨hne, hall⟩ := areDigits_toDigits e.natAbs
  rw [exponentDigits]
  split
  · refine ⟨by simp, fun c hc => ?_⟩
    rcases List.mem_cons.1 hc with rfl | hc
    · rfl
    · exact hall c hc
  · exact ⟨hne, hall⟩

/-- An exponent is read back from its text. -/
theorem exponentValue_exponentText (e : Int) : Python.exponentValue (exponentText e) = e := by
  have hdigits : digitsValue 10 (exponentDigits e) = e.natAbs := by
    rw [exponentDigits]
    split
    · exact (digitsValue_zeros_append 1 _).trans (digitsValue_toDigits_ten _)
    · exact digitsValue_toDigits_ten _
  rw [exponentText_eq, exponentSign]
  split
  · rw [Python.exponentValue, hdigits]
    omega
  · rw [Python.exponentValue, hdigits]
    omega

/-- An exponent follows the digits. -/
theorem exists_writes_exponent {d : Decimal} (h : ¬ (-4 < pointPlace d ∧ pointPlace d ≤ 16)) :
    ∃ p : Parts, p.Writes d := by
  obtain ⟨hne, hall⟩ := areDigits_toDigits d.digits
  have hplace := pointPlace.eq_1 d
  obtain ⟨hneExponent, hallExponent⟩ := areDigits_exponentDigits (pointPlace d - 1)
  let p : Parts :=
    { whole := (Nat.toDigits 10 d.digits).take 1, fraction := (Nat.toDigits 10 d.digits).drop 1
      sign := [exponentSign (pointPlace d - 1)], exponent := exponentDigits (pointPlace d - 1)
      whole_digits := by
        refine ⟨?_, fun c hc => hall c (List.mem_of_mem_take hc)⟩
        have hpos := List.length_pos_iff.2 hne
        rw [← List.length_pos_iff, List.length_take]
        omega
      fraction_digits := fun c hc => hall c (List.mem_of_mem_drop hc)
      exponent_digits := hallExponent
      sign_mem := by
        rw [exponentSign]
        split <;> simp
      marked := .inr hneExponent }
  have hexponentText : p.exponentText = 'e' :: exponentText (pointPlace d - 1) := by
    simp [p, Parts.exponentText, hneExponent, exponentText_eq]
  refine ⟨p, ?_, 0, ?_, ?_⟩
  · rw [magnitudeText]
    simp only [← hplace, if_neg h]
    rw [Parts.chars, hexponentText, ← List.append_assoc]
    rfl
  · have hjoin : p.whole ++ p.fraction = Nat.toDigits 10 d.digits := List.take_append_drop 1 _
    rw [hjoin, digitsValue_toDigits_ten]
    exact (Nat.mul_one _).symm
  · have hlength : p.fraction.length = (Nat.toDigits 10 d.digits).length - 1 := List.length_drop
    have hpos := List.length_pos_iff.2 hne
    have hvalue : p.exponentValue = pointPlace d - 1 := by
      rw [Parts.exponentValue, hexponentText]
      exact exponentValue_exponentText _
    omega

/-- Every decimal number has parts that are its text. -/
theorem exists_writes (d : Decimal) : ∃ p : Parts, p.Writes d := by
  by_cases h : -4 < pointPlace d ∧ pointPlace d ≤ 16
  · by_cases hsmall : pointPlace d ≤ 0
    · exact exists_writes_small h.1 hsmall
    · by_cases hpower : 0 ≤ d.power
      · exact exists_writes_whole (by omega) h.2 hpower
      · exact exists_writes_pointed (by omega) h.2 (by omega)
  · exact exists_writes_exponent h

/-! ## Reading back -/

/-- The text of a magnitude is a numeral of the number. -/
theorem isNumeral_magnitudeText {m : Nat} {e : Int} (h : Canonical m e) :
    IsNumeral (.float (.finite false m e h)) (magnitudeText true (shortest m e)) := by
  obtain ⟨p, hp⟩ := exists_writes (shortest m e)
  have hnumeral := p.isNumeral
  have hread : decimalValue p.chars = .finite false m e h := by
    rw [p.decimalValue_chars]
    by_cases hm : m = 0
    · subst hm
      obtain rfl : e = -1074 := h.2.2.2.resolve_left (by decide)
      obtain ⟨-, k, hdigits, -⟩ := hp
      have hzero : digitsValue 10 (p.whole ++ p.fraction) = 0 := by
        rw [hdigits]
        exact Nat.zero_mul _
      rw [hzero]
      rfl
    · refine ofDecimal_of_contains h hm
        (d := ⟨digitsValue 10 (p.whole ++ p.fraction), p.exponentValue - p.fraction.length⟩) ?_
      rw [hp.value]
      exact contains_shortest h hm
  rw [hread, hp.1] at hnumeral
  exact hnumeral

end AnnotatedMarkdown.Python
