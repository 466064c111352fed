import AnnotatedMarkdown.Proofs.Number.Digits
import AnnotatedMarkdown.Proofs.Number.Shortest

/-!
# Rounding decimal numbers

`ofDecimal_of_contains` rounds a decimal number in the interval of a binary64 number to that
number.  Powers of ten outside the range of the format are decided without being computed,
and `value_lt_magnitude` and `magnitude_le_value` show that this decides nothing wrongly.
-/

namespace AnnotatedMarkdown.Binary64

/-! ## The magnitude of a decimal number -/

theorem digitCount_pos (n : Nat) : 0 < digitCount n :=
  List.length_pos_iff.2 Nat.toDigits_ne_nil

theorem lt_pow_digitCount (n : Nat) : n < 10 ^ digitCount n :=
  (Nat.length_toDigits_le_iff (by decide) (digitCount_pos n)).1 (Nat.le_refl _)

theorem pow_digitCount_le {n : Nat} (hn : n ≠ 0) : 10 ^ (digitCount n - 1) ≤ n := by
  rcases Nat.eq_zero_or_pos (digitCount n - 1) with h | h
  · rw [h, pow_zero]
    exact Nat.one_le_iff_ne_zero.2 hn
  · by_contra hcontra
    have hle := (Nat.length_toDigits_le_iff (by decide) h).2 (Nat.lt_of_not_le hcontra)
    have hpos := digitCount_pos n
    rw [digitCount] at hpos h hle
    omega

/-- A decimal number is less than ten to its magnitude. -/
theorem value_lt_magnitude (d : Decimal) : d.value < 10 ^ (d.power + digitCount d.digits) := by
  have hdigits : (d.digits : ℚ) < 10 ^ digitCount d.digits := by
    exact_mod_cast lt_pow_digitCount d.digits
  have hpos : (0 : ℚ) < 10 ^ d.power := by positivity
  rw [Decimal.value, zpow_add₀ (by norm_num), zpow_natCast, mul_comm]
  exact mul_lt_mul_of_pos_left hdigits hpos

/-- A decimal number is at least ten to its magnitude less one. -/
theorem magnitude_le_value {d : Decimal} (hd : d.digits ≠ 0) :
    (10 : ℚ) ^ (d.power + digitCount d.digits - 1) ≤ d.value := by
  have hdigits : (10 : ℚ) ^ (digitCount d.digits - 1) ≤ d.digits := by
    exact_mod_cast pow_digitCount_le hd
  have hpos : (0 : ℚ) < 10 ^ d.power := by positivity
  have hcount := digitCount_pos d.digits
  have hsplit : d.power + digitCount d.digits - 1 = d.power + (digitCount d.digits - 1 : Nat) := by
    omega
  rw [Decimal.value, hsplit, zpow_add₀ (by norm_num), zpow_natCast, mul_comm]
  exact mul_le_mul_of_nonneg_right hdigits hpos.le

/-! ## The range of the format -/

/-- Ten to a power is more than two to three times the power. -/
theorem two_zpow_lt_ten_zpow : (2 : ℚ) ^ (1200 : Int) < 10 ^ (400 : Int) := by
  rw [show (1200 : Int) = 3 * 400 by norm_num, zpow_mul]
  exact zpow_lt_zpow_left₀ (by norm_num) (by norm_num) (by norm_num)

/-- Rationals that round to a number lie within the range of the format. -/
theorem range_of_contains {m : Nat} {e : Int} (h : Canonical m e) (hm : m ≠ 0) {q : ℚ}
    (hq : (Interval.of m e).Contains q) : (10 : ℚ) ^ (-400 : Int) < q ∧ q < 10 ^ (400 : Int) := by
  obtain ⟨hmax, hleast, hgreatest, -⟩ := h
  obtain ⟨⟨hlow, hhigh⟩, -⟩ := contains_of hq
  have hm1 : (1 : ℚ) ≤ m := by exact_mod_cast Nat.one_le_iff_ne_zero.2 hm
  have hm53 : (m : ℚ) + 1 ≤ 2 ^ 53 := by exact_mod_cast hmax
  have hpos : (0 : ℚ) < 2 ^ e := by positivity
  constructor
  · calc (10 : ℚ) ^ (-400 : Int) = (10 ^ (400 : Int))⁻¹ := zpow_neg _ _
      _ < (2 ^ (1200 : Int))⁻¹ := inv_strictAnti₀ (by positivity) two_zpow_lt_ten_zpow
      _ = 2 ^ (-1200 : Int) := (zpow_neg _ _).symm
      _ ≤ 2 ^ (e - 1) := zpow_le_zpow_right₀ (by norm_num) (by omega)
      _ = 1 / 2 * 2 ^ e := by rw [zpow_sub₀ (by norm_num)]; ring
      _ ≤ (m - 1 / 2) * 2 ^ e := by nlinarith
      _ ≤ q := hlow
  · calc q ≤ (m + 1 / 2) * 2 ^ e := hhigh
      _ ≤ 2 ^ 53 * 2 ^ e := by nlinarith
      _ = 2 ^ (53 + e) := by rw [zpow_add₀ (by norm_num)]; norm_num
      _ ≤ 2 ^ (1200 : Int) := zpow_le_zpow_right₀ (by norm_num) (by omega)
      _ < 10 ^ (400 : Int) := two_zpow_lt_ten_zpow

/-- A decimal number in the interval of a binary64 number rounds to that number. -/
theorem ofDecimal_of_contains {m : Nat} {e : Int} (h : Canonical m e) (hm : m ≠ 0) {d : Decimal}
    (hd : (Interval.of m e).Contains d.value) :
    ofDecimal false d.digits d.power = .finite false m e h := by
  obtain ⟨hlow, hhigh⟩ := range_of_contains h hm hd
  have hzero : d.digits ≠ 0 := by
    intro hzero
    have hpos : (0 : ℚ) < 10 ^ (-400 : Int) := by positivity
    rw [Decimal.value, hzero] at hlow
    simp only [Nat.cast_zero, zero_mul] at hlow
    exact absurd (hpos.trans hlow) (lt_irrefl 0)
  have hnotLarge : ¬ 400 < d.power + digitCount d.digits := by
    have hchain := (magnitude_le_value hzero).trans_lt hhigh
    rw [zpow_lt_zpow_iff_right₀ (by norm_num)] at hchain
    omega
  have hnotSmall : ¬ d.power + digitCount d.digits < -400 := by
    have hchain := hlow.trans (value_lt_magnitude d)
    rw [zpow_lt_zpow_iff_right₀ (by norm_num)] at hchain
    omega
  obtain ⟨digits, power⟩ := d
  rw [ofDecimal.eq_def, if_neg hzero]
  simp only [if_neg hnotLarge, if_neg hnotSmall]
  cases power with
  | ofNat k =>
    refine ofRatio_of_contains false h hm Nat.one_pos ?_
    have hvalue : ((digits * Nat.pow 10 k : Nat) : ℚ) / (1 : Nat) =
        Decimal.value ⟨digits, .ofNat k⟩ := by
      simp [Decimal.value, Nat.pow_eq]
    rw [hvalue]
    exact hd
  | negSucc k =>
    refine ofRatio_of_contains false h hm (Nat.pow_pos (by decide)) ?_
    have hvalue : (digits : ℚ) / (Nat.pow 10 (k + 1) : Nat) =
        Decimal.value ⟨digits, .negSucc k⟩ := by
      simp [Decimal.value, Nat.pow_eq, zpow_negSucc, div_eq_mul_inv]
    rw [hvalue]
    exact hd

end AnnotatedMarkdown.Binary64
