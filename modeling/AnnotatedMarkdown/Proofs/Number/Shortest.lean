import AnnotatedMarkdown.Proofs.Number.Rounding

/-!
# The shortest decimal number

The decimal number that `shortest` finds rounds to the number that it is found for.

* `Decimal.value` is the rational number that a decimal number stands for, and `holds_iff`
  reads membership in an interval over the rationals.
* `floor_spec` says which multiple of a power of ten `Interval.floor` is, and
  `holds_of_onGrid?` that a grid yields only members.
* `exists_onGrid?` finds a member on a grid that is finer than the interval, and
  `holds_coarsest` that the search reaches such a grid.
* `contains_shortest` puts these together.
-/

namespace AnnotatedMarkdown.Binary64

/-! ## Decimal numbers -/

/-- The rational number that a decimal number stands for. -/
def Decimal.value (d : Decimal) : ℚ :=
  d.digits * 10 ^ d.power

theorem tenPower_pos (power : Int) : 0 < (tenPower power).1 ∧ 0 < (tenPower power).2 := by
  cases power with
  | ofNat k => exact ⟨Nat.pow_pos (by decide), Nat.one_pos⟩
  | negSucc k => exact ⟨Nat.one_pos, Nat.pow_pos (by decide)⟩

theorem ratio_tenPower (power : Int) :
    ((tenPower power).1 : ℚ) / (tenPower power).2 = 10 ^ power := by
  cases power with
  | ofNat k => simp [tenPower, Nat.pow_eq]
  | negSucc k => simp [tenPower, Nat.pow_eq, zpow_negSucc]

/-- An interval whose unit is a quotient. -/
def Interval.IsProper (i : Interval) : Prop :=
  0 < i.unit.1 ∧ 0 < i.unit.2

theorem isProper_of (m : Nat) (e : Int) : (Interval.of m e).IsProper := by
  rw [Interval.IsProper, Interval.of]
  refine ⟨?_, scaleRatio_snd_pos 1 (by decide) _⟩
  cases e - 2 with
  | ofNat k => exact Nat.mul_pos (by decide) (Nat.pow_pos (by decide))
  | negSucc k => exact (by decide : 0 < 1)

namespace Interval

variable {i : Interval}

theorem size_pos (hi : i.IsProper) : 0 < i.size := by
  obtain ⟨hnum, hden⟩ := hi
  exact div_pos (by exact_mod_cast hnum) (by exact_mod_cast hden)

/-- An end of the interval and a decimal number are compared over one denominator. -/
theorem le_common_iff (hi : i.IsProper) (d : Decimal) (n : Nat) :
    (n * (i.common d).2 ≤ (i.common d).1 ↔ n * i.size ≤ d.value) ∧
      ((i.common d).1 ≤ n * (i.common d).2 ↔ d.value ≤ n * i.size) := by
  obtain ⟨hnum, hden⟩ := hi
  obtain ⟨hten, hdenTen⟩ := tenPower_pos d.power
  have hdenQ : (0 : ℚ) < i.unit.2 := by exact_mod_cast hden
  have hdenTenQ : (0 : ℚ) < (tenPower d.power).2 := by exact_mod_cast hdenTen
  have hpoint : ((i.common d).1 : ℚ) = d.value * ((tenPower d.power).2 * i.unit.2) := by
    rw [Decimal.value, ← ratio_tenPower, common]
    push_cast
    field_simp
  have hfactor : ((n * (i.common d).2 : Nat) : ℚ) =
      n * i.size * ((tenPower d.power).2 * i.unit.2) := by
    rw [size, common]
    push_cast
    field_simp
  have hscale : (0 : ℚ) < (tenPower d.power).2 * i.unit.2 := by positivity
  constructor
  · rw [← Nat.cast_le (α := ℚ), hpoint, hfactor, mul_le_mul_iff_left₀ hscale]
  · rw [← Nat.cast_le (α := ℚ), hpoint, hfactor, mul_le_mul_iff_left₀ hscale]

theorem holds_iff (hi : i.IsProper) (d : Decimal) : i.holds d = true ↔ i.Contains d.value := by
  have hlow := le_common_iff hi d i.low
  have hhigh := le_common_iff hi d i.high
  rw [holds, Contains]
  simp only []
  by_cases hclosed : i.closed = true
  · simp only [hclosed, if_true, true_or, and_true, Bool.and_eq_true, decide_eq_true_eq, hlow.1,
      hhigh.2]
  · simp only [hclosed, Bool.false_eq_true, if_false, false_or, Bool.and_eq_true, decide_eq_true_eq]
    rw [← not_le, ← not_le, hlow.2, hhigh.1, not_le, not_le]
    exact ⟨fun ⟨h, h'⟩ => ⟨⟨h.le, h'.le⟩, h, h'⟩, fun h => h.2⟩

/-! ## Grids -/

/-- The floor on a grid is the last multiple that is at most the value. -/
theorem floor_spec (hi : i.IsProper) (power : Int) :
    i.floor power * (10 : ℚ) ^ power ≤ i.value * i.size ∧
      i.value * i.size < (i.floor power + 1) * (10 : ℚ) ^ power := by
  obtain ⟨hnum, hden⟩ := hi
  obtain ⟨hten, hdenTen⟩ := tenPower_pos power
  have htenQ : (0 : ℚ) < (tenPower power).1 := by exact_mod_cast hten
  have hdenTenQ : (0 : ℚ) < (tenPower power).2 := by exact_mod_cast hdenTen
  have hdenQ : (0 : ℚ) < i.unit.2 := by exact_mod_cast hden
  have hgrid : 0 < i.unit.2 * (tenPower power).1 := Nat.mul_pos hden hten
  have hfloor : i.floor power =
      i.value * i.unit.1 * (tenPower power).2 / (i.unit.2 * (tenPower power).1) :=
    rfl
  have hlow : (i.floor power * (i.unit.2 * (tenPower power).1) : ℚ) ≤
      i.value * i.unit.1 * (tenPower power).2 := by
    rw [hfloor]
    exact_mod_cast Nat.div_mul_le_self _ _
  have hhigh : (i.value * i.unit.1 * (tenPower power).2 : ℚ) <
      (i.floor power + 1) * (i.unit.2 * (tenPower power).1) := by
    rw [hfloor]
    exact_mod_cast Nat.lt_mul_of_div_lt (Nat.lt_succ_self _) hgrid
  rw [← ratio_tenPower, size]
  constructor
  · rw [mul_div_assoc', mul_div_assoc', div_le_div_iff₀ hdenTenQ hdenQ]
    linarith
  · rw [mul_div_assoc', mul_div_assoc', div_lt_div_iff₀ hdenQ hdenTenQ]
    linarith

/-- A grid yields only members of the interval. -/
theorem holds_of_onGrid? {power : Int} {d : Decimal} (h : i.onGrid? power = some d) :
    i.holds d = true := by
  rw [onGrid?] at h
  simp only [] at h
  split at h
  · rename_i hbelow
    split at h
    · rename_i habove
      split at h
      · exact Option.some.inj h ▸ hbelow
      · split at h
        · exact Option.some.inj h ▸ habove
        · split at h
          · exact Option.some.inj h ▸ hbelow
          · exact Option.some.inj h ▸ habove
    · exact Option.some.inj h ▸ hbelow
  · split at h
    · rename_i habove
      exact Option.some.inj h ▸ habove
    · exact absurd h (by simp)

/-- A grid that is finer than the distance of the value from the lower end has a member. -/
theorem exists_onGrid? (hi : i.IsProper) (hlow : i.low + 1 ≤ i.value) (hhigh : i.value < i.high)
    {power : Int} (hfine : (10 : ℚ) ^ power ≤ i.size) : ∃ d, i.onGrid? power = some d := by
  obtain ⟨hbelow, habove⟩ := floor_spec hi power
  have hsize := size_pos hi
  have hlowQ : (i.low + 1 : ℚ) ≤ i.value := by exact_mod_cast hlow
  have hhighQ : (i.value : ℚ) < i.high := by exact_mod_cast hhigh
  have hholds : i.holds ⟨i.floor power, power⟩ = true := by
    have hleft : i.low * i.size < i.floor power * (10 : ℚ) ^ power := by nlinarith
    have hright : i.floor power * (10 : ℚ) ^ power < i.high * i.size := by nlinarith
    rw [holds_iff hi, Contains, Decimal.value]
    exact ⟨⟨hleft.le, hright.le⟩, .inr ⟨hleft, hright⟩⟩
  rw [onGrid?]
  simp only [hholds, if_true]
  split
  · split
    · exact ⟨_, rfl⟩
    · split
      · exact ⟨_, rfl⟩
      · split <;> exact ⟨_, rfl⟩
  · exact ⟨_, rfl⟩

/-- The search for a grid with a member finds one if it gets far enough. -/
theorem holds_coarsest {steps : Nat} {power : Int}
    (h : ∃ k < steps, ∃ d, i.onGrid? (power - (k : Int)) = some d) :
    i.holds (i.coarsest steps power) = true := by
  induction steps generalizing power with
  | zero =>
    obtain ⟨k, hk, -⟩ := h
    exact absurd hk (Nat.not_lt_zero k)
  | succ steps ih =>
    rw [coarsest]
    cases hgrid : i.onGrid? power with
    | some d => exact holds_of_onGrid? hgrid
    | none =>
      refine ih ?_
      obtain ⟨k, hk, d, hd⟩ := h
      cases k with
      | zero =>
        rw [Nat.cast_zero, sub_zero, hgrid] at hd
        exact absurd hd (by simp)
      | succ k =>
        refine ⟨k, by omega, d, ?_⟩
        rw [← hd]
        congr 1
        push_cast
        ring

end Interval

/-- Trailing zeros go into the power. -/
theorem value_stripZeros (fuel : Nat) (d : Decimal) : (stripZeros fuel d).value = d.value := by
  induction fuel generalizing d with
  | zero => rfl
  | succ fuel ih =>
    rw [stripZeros]
    split
    · rename_i h
      rw [ih, Decimal.value, Decimal.value, zpow_add₀ (by norm_num), zpow_one]
      have hdigits : (d.digits : ℚ) = (d.digits / 10 : Nat) * 10 := by
        exact_mod_cast (Nat.div_mul_cancel (Nat.dvd_of_mod_eq_zero h.1)).symm
      rw [hdigits]
      ring
    · rfl

/-! ## The leading power of ten -/

/-- The estimate of the leading power of ten of a power of two, less one. -/
def leastPower (k : Int) : Int :=
  k * 30103 / 100000 - 1

/-- Whether ten to a power is at most two to a power. -/
def isTenPowerBelow (power k : Int) : Bool :=
  (tenPower power).1 * (scaleRatio 1 1 k).2 ≤ (scaleRatio 1 1 k).1 * (tenPower power).2

/-- The estimate is at most one too large, for every exponent of a binary64 number. -/
theorem isTenPowerBelow_leastPower :
    ∀ k : Nat, k < 2098 →
      isTenPowerBelow (leastPower ((k : Int) - 1074)) ((k : Int) - 1074) = true := by
  have hall : (List.range 2098).all fun k =>
      isTenPowerBelow (leastPower ((k : Int) - 1074)) ((k : Int) - 1074) := by
    decide +kernel
  intro k hk
  exact List.all_eq_true.1 hall k (List.mem_range.2 hk)

theorem ten_zpow_leastPower_le {k : Int} (hlow : -1074 ≤ k) (hhigh : k ≤ 1023) :
    (10 : ℚ) ^ leastPower k ≤ 2 ^ k := by
  have hcheck := isTenPowerBelow_leastPower (k + 1074).toNat (by omega)
  rw [Int.toNat_of_nonneg (by omega), add_sub_cancel_right, isTenPowerBelow,
    decide_eq_true_eq] at hcheck
  have htwo := ratio_scaleRatio 1 1 k
  have hten := (tenPower_pos (leastPower k)).2
  have hden := scaleRatio_snd_pos 1 Nat.one_pos k
  have htenQ : (0 : ℚ) < (tenPower (leastPower k)).2 := by exact_mod_cast hten
  have hdenQ : (0 : ℚ) < (scaleRatio 1 1 k).2 := by exact_mod_cast hden
  rw [Nat.cast_one, div_one, one_mul] at htwo
  rw [← htwo, ← ratio_tenPower, div_le_div_iff₀ htenQ hdenQ]
  exact_mod_cast hcheck

/-- The leading power of ten is at most the value. -/
theorem ten_zpow_leadingPower_le {i : Interval} (hi : i.IsProper) {estimate : Int}
    (h : (10 : ℚ) ^ (estimate - 1) ≤ i.value * i.size) :
    (10 : ℚ) ^ leadingPower i estimate ≤ i.value * i.size := by
  have hfloor : ∀ power, 1 ≤ i.floor power → (10 : ℚ) ^ power ≤ i.value * i.size := by
    intro power hone
    have hone : (1 : ℚ) ≤ i.floor power := by exact_mod_cast hone
    have hpos : (0 : ℚ) < 10 ^ power := by positivity
    have hspec := (Interval.floor_spec hi power).1
    nlinarith
  rw [leadingPower]
  split
  · rename_i hone
    exact hfloor _ hone
  · split
    · rename_i hone
      exact hfloor _ hone
    · exact h

/-! ## The search -/

/-- The decimal number that is found for a number lies in the interval of the number. -/
theorem contains_shortest {m : Nat} {e : Int} (h : Canonical m e) (hm : m ≠ 0) :
    (Interval.of m e).Contains (shortest m e).value := by
  obtain ⟨hmax, hleast, hgreatest, -⟩ := h
  have hproper := isProper_of m e
  have hsize := size_of m e
  have hvalue : ((Interval.of m e).value : ℚ) * (Interval.of m e).size = m * 2 ^ e := by
    rw [hsize, Interval.of]
    push_cast
    ring
  have hpos : (0 : ℚ) < 2 ^ e := by positivity
  have hlog : (2 : ℚ) ^ ((m.log2 : Int) + e) ≤ m * 2 ^ e := by
    rw [zpow_add₀ (by norm_num), zpow_natCast]
    have hself : ((2 ^ m.log2 : Nat) : ℚ) ≤ m := by exact_mod_cast Nat.log2_self_le hm
    push_cast at hself
    nlinarith
  have hlog52 : m.log2 < 53 := (Nat.log2_lt hm).2 hmax
  have hestimate : (10 : ℚ) ^ leastPower ((m.log2 : Int) + e) ≤
      (Interval.of m e).value * (Interval.of m e).size := by
    rw [hvalue]
    exact (ten_zpow_leastPower_le (by omega) (by omega)).trans hlog
  have hleading := ten_zpow_leadingPower_le hproper hestimate
  -- Nineteen digits are more than the mantissa needs.
  have hfine : (10 : ℚ) ^ (leadingPower (Interval.of m e)
      (((m.log2 : Int) + e) * 30103 / 100000) - (19 : Nat)) ≤ (Interval.of m e).size := by
    have hm53 : (m : ℚ) ≤ 2 ^ 53 := by exact_mod_cast hmax.le
    rw [hvalue] at hleading
    rw [zpow_sub₀ (by norm_num), hsize, div_le_iff₀ (by positivity), zpow_natCast]
    calc _ ≤ (m : ℚ) * 2 ^ e := hleading
      _ ≤ 2 ^ e / 4 * 10 ^ 19 := by nlinarith
  have hinside : (Interval.of m e).low + 1 ≤ (Interval.of m e).value ∧
      (Interval.of m e).value < (Interval.of m e).high := by
    rw [Interval.of]
    simp only []
    split <;> omega
  have hgrid := Interval.exists_onGrid? hproper hinside.1 hinside.2 hfine
  rw [← Interval.holds_iff hproper, shortest, if_neg hm]
  simp only []
  rw [Interval.holds_iff hproper, value_stripZeros, ← Interval.holds_iff hproper]
  exact Interval.holds_coarsest ⟨19, by decide, hgrid⟩

end AnnotatedMarkdown.Binary64
