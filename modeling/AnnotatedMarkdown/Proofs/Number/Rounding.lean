import AnnotatedMarkdown.Number.Shortest
import Mathlib

/-!
# Rounding to binary64

Every rational of the interval around a binary64 number rounds to the number.

* `ratio_scaleRatio` and `log2Ratio_spec` state what the steps of `ofRatio` compute, over
  the rationals.
* `divNearestEven_eq` recognises the natural number that a quotient is rounded to.
* `Interval.Contains` says that a rational lies in an interval, and
  `ofRatio_of_contains` that rounding finds the number of the interval.
-/

namespace AnnotatedMarkdown.Binary64

/-! ## Quotients -/

theorem scaleRatio_snd_pos (num : Nat) {den : Nat} (hden : 0 < den) (power : Int) :
    0 < (scaleRatio num den power).2 := by
  cases power with
  | ofNat k => exact hden
  | negSucc k => exact Nat.mul_pos hden (Nat.pow_pos (by decide))

/-- A scaled quotient is the quotient times a power of two. -/
theorem ratio_scaleRatio (num den : Nat) (power : Int) :
    ((scaleRatio num den power).1 : ℚ) / (scaleRatio num den power).2 =
      (num : ℚ) / den * 2 ^ power := by
  cases power with
  | ofNat k =>
    simp only [scaleRatio, Nat.pow_eq, Int.ofNat_eq_natCast, zpow_natCast]
    push_cast
    ring
  | negSucc k =>
    simp only [scaleRatio, Nat.pow_eq, zpow_negSucc]
    push_cast
    rw [div_mul_eq_div_div, div_eq_mul_inv _ ((2 : ℚ) ^ (k + 1))]

theorem le_ratio_iff {n d : Nat} (hd : 0 < d) : d ≤ n ↔ (1 : ℚ) ≤ (n : ℚ) / d := by
  rw [le_div_iff₀ (by exact_mod_cast hd), one_mul]
  exact_mod_cast Iff.rfl

/-- A quotient of positive numbers lies between two consecutive powers of two. -/
theorem log2Ratio_spec {num den : Nat} (hnum : 0 < num) (hden : 0 < den) :
    (2 : ℚ) ^ log2Ratio num den ≤ (num : ℚ) / den ∧
      (num : ℚ) / den < 2 ^ (log2Ratio num den + 1) := by
  have hdenQ : (0 : ℚ) < den := by exact_mod_cast hden
  have hnumLow : (2 : ℚ) ^ (num.log2 : Int) ≤ num := by
    rw [zpow_natCast]
    exact_mod_cast Nat.log2_self_le hnum.ne'
  have hnumHigh : (num : ℚ) < 2 ^ ((num.log2 : Int) + 1) := by
    rw [← Nat.cast_succ, zpow_natCast]
    exact_mod_cast Nat.lt_log2_self
  have hdenLow : (2 : ℚ) ^ (den.log2 : Int) ≤ den := by
    rw [zpow_natCast]
    exact_mod_cast Nat.log2_self_le hden.ne'
  have hdenHigh : (den : ℚ) < 2 ^ ((den.log2 : Int) + 1) := by
    rw [← Nat.cast_succ, zpow_natCast]
    exact_mod_cast Nat.lt_log2_self
  let k : Int := (num.log2 : Int) - (den.log2 : Int)
  have hlow : (2 : ℚ) ^ (k - 1) ≤ (num : ℚ) / den := by
    rw [le_div_iff₀ hdenQ]
    calc (2 : ℚ) ^ (k - 1) * den
        ≤ 2 ^ (k - 1) * 2 ^ ((den.log2 : Int) + 1) := by gcongr
      _ = 2 ^ (num.log2 : Int) := by
          rw [← zpow_add₀ (by norm_num)]
          congr 1
          simp only [k]
          ring
      _ ≤ num := hnumLow
  have hhigh : (num : ℚ) / den < 2 ^ (k + 1) := by
    rw [div_lt_iff₀ hdenQ]
    calc (num : ℚ) < 2 ^ ((num.log2 : Int) + 1) := hnumHigh
      _ = 2 ^ (k + 1) * 2 ^ (den.log2 : Int) := by
          rw [← zpow_add₀ (by norm_num)]
          congr 1
          simp only [k]
          ring
      _ ≤ 2 ^ (k + 1) * den := by gcongr
  have hcompare : (scaleRatio num den (-k)).2 ≤ (scaleRatio num den (-k)).1 ↔
      (2 : ℚ) ^ k ≤ (num : ℚ) / den := by
    rw [le_ratio_iff (scaleRatio_snd_pos num hden _), ratio_scaleRatio, zpow_neg,
      ← div_eq_mul_inv, le_div_iff₀ (by positivity), one_mul]
  have hk : log2Ratio num den =
      if (scaleRatio num den (-k)).2 ≤ (scaleRatio num den (-k)).1 then k else k - 1 :=
    rfl
  rw [hk]
  split
  · rename_i h
    exact ⟨hcompare.1 h, hhigh⟩
  · rename_i h
    rw [hcompare, not_le] at h
    exact ⟨hlow, by simpa using h⟩

/-- Between two powers of two only one exponent fits. -/
theorem log2Ratio_le {num den : Nat} (hnum : 0 < num) (hden : 0 < den) {k : Int}
    (h : (num : ℚ) / den < 2 ^ (k + 1)) : log2Ratio num den ≤ k := by
  have hspec := (log2Ratio_spec hnum hden).1.trans_lt h
  rw [zpow_lt_zpow_iff_right₀ (by norm_num)] at hspec
  omega

theorem le_log2Ratio {num den : Nat} (hnum : 0 < num) (hden : 0 < den) {k : Int}
    (h : (2 : ℚ) ^ k ≤ (num : ℚ) / den) : k ≤ log2Ratio num den := by
  have hspec := h.trans_lt (log2Ratio_spec hnum hden).2
  rw [zpow_lt_zpow_iff_right₀ (by norm_num)] at hspec
  omega

/-! ## The nearest natural number -/

/-- A quotient rounds to a natural number that is at most half a unit away; at exactly half
a unit the number is even. -/
theorem divNearestEven_eq {n d m : Nat} (hd : 0 < d) (hlow : (m : ℚ) - 1 / 2 ≤ (n : ℚ) / d)
    (hhigh : (n : ℚ) / d ≤ m + 1 / 2)
    (heven : m % 2 = 0 ∨ ((m : ℚ) - 1 / 2 < (n : ℚ) / d ∧ (n : ℚ) / d < m + 1 / 2)) :
    divNearestEven n d = m := by
  have hdQ : (0 : ℚ) < d := by exact_mod_cast hd
  rw [le_div_iff₀ hdQ] at hlow
  rw [div_le_iff₀ hdQ] at hhigh
  rw [lt_div_iff₀ hdQ, div_lt_iff₀ hdQ] at heven
  -- The bounds as inequalities of natural numbers.
  have hlowNat : 2 * (m * d) ≤ 2 * n + d := by
    have hcast : (2 * (m * d) : ℚ) ≤ 2 * n + d := by linarith
    exact_mod_cast hcast
  have hhighNat : 2 * n ≤ 2 * (m * d) + d := by
    have hcast : (2 * n : ℚ) ≤ 2 * (m * d) + d := by linarith
    exact_mod_cast hcast
  have hevenNat : m % 2 = 0 ∨ (2 * (m * d) < 2 * n + d ∧ 2 * n < 2 * (m * d) + d) := by
    refine heven.imp_right fun ⟨hlow, hhigh⟩ => ⟨?_, ?_⟩
    · have hcast : (2 * (m * d) : ℚ) < 2 * n + d := by linarith
      exact_mod_cast hcast
    · have hcast : (2 * n : ℚ) < 2 * (m * d) + d := by linarith
      exact_mod_cast hcast
  have hdivision := Nat.div_add_mod n d
  have hrest := Nat.mod_lt n hd
  have hq : n / d = m ∨ n / d + 1 = m := by
    have hle : n / d ≤ m := by
      by_contra hcontra
      have hmul : d * (m + 1) ≤ d * (n / d) := Nat.mul_le_mul_left d (by omega)
      rw [Nat.mul_add, Nat.mul_comm d m] at hmul
      omega
    have hge : m ≤ n / d + 1 := by
      by_contra hcontra
      have hmul : d * (n / d + 2) ≤ d * m := Nat.mul_le_mul_left d (by omega)
      rw [Nat.mul_add, Nat.mul_comm d m] at hmul
      omega
    omega
  rw [divNearestEven]
  rcases hq with hq | hq
  · rw [hq, Nat.mul_comm] at hdivision
    rw [hq]
    split
    · rfl
    · split
      · omega
      · omega
  · have hmd : m * d = d * (n / d) + d := by
      rw [← hq]
      ring
    split
    · omega
    · split
      · exact hq
      · omega

/-! ## Intervals -/

/-- The unit of an interval. -/
def Interval.size (i : Interval) : ℚ :=
  (i.unit.1 : ℚ) / i.unit.2

/-- Whether a rational number lies in an interval. -/
def Interval.Contains (i : Interval) (q : ℚ) : Prop :=
  (i.low * i.size ≤ q ∧ q ≤ i.high * i.size) ∧
    (i.closed = true ∨ (i.low * i.size < q ∧ q < i.high * i.size))

/-- The unit is a quarter of the distance between neighbours. -/
theorem size_of (m : Nat) (e : Int) : (Interval.of m e).size = 2 ^ e / 4 := by
  rw [Interval.size, Interval.of]
  simp only []
  rw [ratio_scaleRatio, zpow_sub₀ (by norm_num)]
  norm_num

/-- The interval of a number reaches half a unit to both sides at most. -/
theorem contains_of {m : Nat} {e : Int} {q : ℚ} (h : (Interval.of m e).Contains q) :
    ((m - 1 / 2) * 2 ^ e ≤ q ∧ q ≤ (m + 1 / 2) * 2 ^ e) ∧
      (m % 2 = 0 ∨ ((m - 1 / 2) * 2 ^ e < q ∧ q < (m + 1 / 2) * 2 ^ e)) := by
  have hpos : (0 : ℚ) < 2 ^ e := by positivity
  have hhigh : ((Interval.of m e).high : ℚ) * (Interval.of m e).size = (m + 1 / 2) * 2 ^ e := by
    rw [size_of, Interval.of]
    push_cast
    ring
  have hlow : (m - 1 / 2) * 2 ^ e ≤ ((Interval.of m e).low : ℚ) * (Interval.of m e).size := by
    have hnat : 4 * m ≤ (Interval.of m e).low + 2 := by
      rw [Interval.of]
      simp only []
      split <;> omega
    have hcast : (4 * m : ℚ) ≤ (Interval.of m e).low + 2 := by exact_mod_cast hnat
    rw [size_of]
    nlinarith
  obtain ⟨⟨hleft, hright⟩, hclosed⟩ := h
  rw [hhigh] at hright hclosed
  refine ⟨⟨hlow.trans hleft, hright⟩, ?_⟩
  rcases hclosed with hclosed | ⟨hleft, hright⟩
  · exact .inl (by simpa [Interval.of] using hclosed)
  · exact .inr ⟨hlow.trans_lt hleft, hright⟩

/-- Below a power of two the interval reaches a quarter of a unit only. -/
theorem contains_of_pow {e : Int} {q : ℚ} (he : -1074 < e)
    (h : (Interval.of (Nat.pow 2 52) e).Contains q) : (2 ^ 52 - 1 / 4) * 2 ^ e ≤ q := by
  have hlow : ((Interval.of (Nat.pow 2 52) e).low : ℚ) = 4 * 2 ^ 52 - 1 := by
    simp only [Interval.of, he, and_self, if_true]
    norm_num
  have hleft := h.1.1
  rw [hlow, size_of] at hleft
  linarith

/-! ## Rounding -/

/-- What `ofRatio` makes of an exponent and a rounded mantissa. -/
theorem ofRatio_eq {negative : Bool} {num den : Nat} (hnum : num ≠ 0) (hden : den ≠ 0)
    {exponent : Int} (hexponent : max (log2Ratio num den - 52) (-1074) = exponent) {rounded : Nat}
    (hrounded : divNearestEven (scaleRatio num den (-exponent)).1
      (scaleRatio num den (-exponent)).2 = rounded) {m : Nat} {e : Int}
    (hcarry : (if rounded = Nat.pow 2 53 then (Nat.pow 2 52, exponent + 1)
      else (rounded, exponent)) = (m, e)) (h : Canonical m e) :
    ofRatio negative num den = .finite negative m e h := by
  rw [ofRatio, if_neg (by simp [hnum, hden])]
  simp only [hexponent, hrounded, hcarry, dif_pos h]

/-- Every quotient in the interval of a number rounds to the number. -/
theorem ofRatio_of_contains (negative : Bool) {num den m : Nat} {e : Int} (h : Canonical m e)
    (hm : m ≠ 0) (hden : 0 < den) (hq : (Interval.of m e).Contains ((num : ℚ) / den)) :
    ofRatio negative num den = .finite negative m e h := by
  obtain ⟨⟨hlow, hhigh⟩, heven⟩ := contains_of hq
  obtain ⟨hmax, hleast, -, hnormal⟩ := h
  have hpos : (0 : ℚ) < 2 ^ e := by positivity
  have hm1 : (1 : ℚ) ≤ m := by exact_mod_cast Nat.one_le_iff_ne_zero.2 hm
  have hm53 : (m : ℚ) + 1 ≤ 2 ^ 53 := by exact_mod_cast hmax
  have hquotient : 0 < (num : ℚ) / den := by nlinarith
  have hnum : 0 < num := by
    rw [Nat.pos_iff_ne_zero]
    rintro rfl
    simp at hquotient
  have htop : (num : ℚ) / den < 2 ^ (52 + e + 1) := by
    have hsplit : (2 : ℚ) ^ (52 + e + 1) = 2 ^ 53 * 2 ^ e := by
      rw [show 52 + e + 1 = 53 + e by ring, zpow_add₀ (by norm_num)]
      norm_num
    rw [hsplit]
    nlinarith
  have hk := log2Ratio_le hnum hden htop
  by_cases hexact : e = -1074 ∨ (2 : ℚ) ^ (52 + e) ≤ (num : ℚ) / den
  · -- The exponent of the number is found.
    have hexponent : max (log2Ratio num den - 52) (-1074) = e := by
      rcases hexact with rfl | hge
      · omega
      · have hk' := le_log2Ratio hnum hden hge
        omega
    have hscaled : ((scaleRatio num den (-e)).1 : ℚ) / (scaleRatio num den (-e)).2 =
        num / den / 2 ^ e := by
      rw [ratio_scaleRatio, zpow_neg, div_eq_mul_inv _ ((2 : ℚ) ^ e)]
    have hrounded : divNearestEven (scaleRatio num den (-e)).1 (scaleRatio num den (-e)).2 = m := by
      refine divNearestEven_eq (scaleRatio_snd_pos num hden _) ?_ ?_ ?_
      · rw [hscaled, le_div_iff₀ hpos]
        exact hlow
      · rw [hscaled, div_le_iff₀ hpos]
        exact hhigh
      · rw [hscaled, lt_div_iff₀ hpos, div_lt_iff₀ hpos]
        exact heven
    refine ofRatio_eq hnum.ne' hden.ne' hexponent hrounded ?_ _
    rw [if_neg (Nat.ne_of_lt hmax)]
  · -- Below a power of two the exponent is one less, and rounding carries.
    obtain ⟨he, hless⟩ := not_or.1 hexact
    rw [not_le] at hless
    have hsplit : (2 : ℚ) ^ (52 + e) = 2 ^ 52 * 2 ^ e := by
      rw [zpow_add₀ (by norm_num)]
      norm_num
    have hpow : m = Nat.pow 2 52 := by
      have hge : Nat.pow 2 52 ≤ m := hnormal.resolve_right he
      have hle : m < Nat.pow 2 52 + 1 := by
        have hcast : (m : ℚ) < 2 ^ 52 + 1 := by
          rw [hsplit] at hless
          by_contra hcontra
          rw [not_lt] at hcontra
          nlinarith
        exact_mod_cast hcast
      omega
    subst hpow
    have hquarter := contains_of_pow (by omega) hq
    have hexponent : max (log2Ratio num den - 52) (-1074) = e - 1 := by
      have hge : (2 : ℚ) ^ (51 + e) ≤ (num : ℚ) / den := by
        have hhalf : (2 : ℚ) ^ (51 + e) = 2 ^ 51 * 2 ^ e := by
          rw [zpow_add₀ (by norm_num)]
          norm_num
        rw [hhalf]
        nlinarith
      have hk' := le_log2Ratio hnum hden hge
      have hk'' := log2Ratio_le hnum hden (k := 51 + e) (by
        rw [show 51 + e + 1 = 52 + e by ring]
        exact hless)
      omega
    have hscaled : ((scaleRatio num den (-(e - 1))).1 : ℚ) / (scaleRatio num den (-(e - 1))).2 =
        num / den / 2 ^ e * 2 := by
      rw [ratio_scaleRatio, show -(e - 1) = -e + 1 by ring, zpow_add₀ (by norm_num), zpow_neg,
        div_eq_mul_inv _ ((2 : ℚ) ^ e)]
      ring
    have hrounded : divNearestEven (scaleRatio num den (-(e - 1))).1
        (scaleRatio num den (-(e - 1))).2 = Nat.pow 2 53 := by
      have hcast : ((Nat.pow 2 53 : Nat) : ℚ) = 2 ^ 53 := by norm_num
      rw [hsplit, ← div_lt_iff₀ hpos] at hless
      rw [← le_div_iff₀ hpos] at hquarter
      refine divNearestEven_eq (scaleRatio_snd_pos num hden _) ?_ ?_ (.inl (by decide))
      · rw [hscaled, hcast]
        linarith
      · rw [hscaled, hcast]
        linarith
    refine ofRatio_eq hnum.ne' hden.ne' hexponent hrounded ?_ _
    rw [if_pos rfl, sub_add_cancel]

end AnnotatedMarkdown.Binary64
