import ColumnCast.Proofs.Float.Rounding

/-!
# Widening to a larger format

A finite number that has no digits below the least exponent of a format, and no more of them than
the format's significands, is a number of that format (`FloatFormat.decode_ofNumber_finite`).
The finite numbers of the 32-bit format are such numbers of the 64-bit one, so widening keeps what
a pattern stands for (`Binary32.decode_widen_finite`), and what is no finite number stays what it
is.
-/

namespace ColumnCast

namespace FloatFormat

variable {f : FloatFormat} {num den : ℕ}

/-! ### Exact numbers -/

/-- A whole number of quanta is not rounded. -/
private theorem steps_of_multiple (hden : 0 < den) {k : ℕ}
    (hk : (num : ℚ) / den = k * 2 ^ f.quantum num den) : f.steps num den = k := by
  have hquantum : (2 : ℚ) ^ f.quantum num den ≠ 0 := by positivity
  have hclose := abs_steps_sub_le f num hden
  rw [hk, mul_div_cancel_right₀ _ hquantum, abs_le] at hclose
  -- integers at most one half apart are equal
  have hlow : k < f.steps num den + 1 := by
    rw [← Nat.cast_lt (α := ℚ)]
    push_cast
    linarith
  have hhigh : f.steps num den < k + 1 := by
    rw [← Nat.cast_lt (α := ℚ)]
    push_cast
    linarith
  omega

/-- A number of few enough digits has none below the quantum. -/
private theorem quantum_le {significand : ℕ} {exponent : ℤ} (hnum : 0 < num) (hden : 0 < den)
    (hvalue : (num : ℚ) / den = significand * 2 ^ exponent)
    (hdigits : significand < 2 ^ (f.fractionBits + 1)) (hexponent : f.minExponent ≤ exponent) :
    f.quantum num den ≤ exponent := by
  have hbelow : (num : ℚ) / den < 2 ^ (exponent + (f.fractionBits + 1 : ℕ)) := by
    have hdigits' : (significand : ℚ) < 2 ^ (f.fractionBits + 1) := by exact_mod_cast hdigits
    rw [hvalue, zpow_add₀ (by norm_num), zpow_natCast, mul_comm]
    gcongr
  have hlog : floorLog2 num den < exponent + (f.fractionBits + 1 : ℕ) := by
    rw [floorLog2_eq hnum hden, ← Int.lt_zpow_iff_log_lt (by norm_num) (by positivity)]
    exact_mod_cast hbelow
  refine max_le hexponent ?_
  push_cast at hlog
  omega

/-- A fraction with room for its digits is decoded as itself. -/
private theorem decode_ofRatio_exact (hf : 2 ≤ f.exponentBits) (negative : Bool) {significand : ℕ}
    {exponent : ℤ} (hnum : 0 < num) (hden : 0 < den)
    (hvalue : (num : ℚ) / den = significand * 2 ^ exponent)
    (hdigits : significand < 2 ^ (f.fractionBits + 1)) (hexponent : f.minExponent ≤ exponent)
    (hrange : (num : ℚ) / den ≤ f.greatest) :
    ∃ significand' exponent',
      f.decode (f.ofRatio negative num den) = .finite negative significand' exponent' ∧
        (significand' : ℚ) * 2 ^ exponent' = (num : ℚ) / den := by
  obtain ⟨significand', exponent', hdecode, hresult, -⟩ :=
    decode_ofRatio_of_lt negative hnum hden (magnitude_steps_lt hf hnum hden hrange)
  refine ⟨significand', exponent', hdecode, hresult.trans ?_⟩
  -- the exponent is some number of binades above the quantum
  obtain ⟨j, hj⟩ := Int.le.dest (quantum_le hnum hden hvalue hdigits hexponent)
  have hmultiple : (num : ℚ) / den = (significand * 2 ^ j : ℕ) * 2 ^ f.quantum num den := by
    rw [hvalue, ← hj, zpow_add₀ (by norm_num), zpow_natCast]
    push_cast
    ring
  rw [steps_of_multiple hden hmultiple, hmultiple]

/-- **Exact numbers.** A finite number that the fields of a format have room for keeps its value
in that format. -/
theorem decode_ofNumber_finite (hf : 2 ≤ f.exponentBits) (negative : Bool) {significand : ℕ}
    {exponent : ℤ} (hdigits : significand < 2 ^ (f.fractionBits + 1))
    (hexponent : f.minExponent ≤ exponent)
    (hrange : (significand : ℚ) * 2 ^ exponent ≤ f.greatest) :
    ∃ significand' exponent',
      f.decode (f.ofNumber (.finite negative significand exponent)) =
          .finite negative significand' exponent' ∧
        (significand' : ℚ) * 2 ^ exponent' = significand * 2 ^ exponent := by
  have hvalue := binaryRatio_div significand exponent
  have hden := binaryRatio_den_pos significand exponent
  rcases Nat.eq_zero_or_pos significand with rfl | hpos
  · refine ⟨0, f.minExponent, ?_, by simp⟩
    have hzero : f.roundMagnitude (0 * pow2 exponent.toNat) (pow2 (-exponent).toNat) = 0 := by
      rw [Nat.zero_mul, roundMagnitude, if_pos rfl]
    change f.decode (f.ofMagnitude negative (f.roundMagnitude _ _)) = _
    rw [hzero, decode_ofMagnitude_zero (by omega)]
  · have hnum : 0 < (binaryRatio significand exponent).1 :=
      Nat.mul_pos hpos (Nat.two_pow_pos _)
    rw [← hvalue] at hrange ⊢
    exact decode_ofRatio_exact hf negative hnum hden hvalue hdigits hexponent hrange

end FloatFormat

/-! ### From 32 to 64 bits -/

namespace FloatFormat

theorem greatest_single : single.greatest = (2 ^ 24 - 1) * 2 ^ 104 := by
  have hexponent : single.maxExponent = (104 : ℕ) := by decide
  rw [greatest, hexponent, zpow_natCast]
  norm_num [single]

private theorem greatest_single_le : single.greatest ≤ double.greatest :=
  calc single.greatest ≤ 2 ^ 128 := by rw [greatest_single]; norm_num
    _ ≤ double.greatest := two_pow_le_greatest (by decide) (by decide)

end FloatFormat

namespace Binary32

open FloatFormat

variable {bits : Binary32} {negative : Bool}

/-- **Widening is exact.** A finite number keeps its sign and its value. -/
theorem decode_widen_finite {significand : ℕ} {exponent : ℤ}
    (h : single.decode bits = .finite negative significand exponent) :
    ∃ significand' exponent',
      double.decode bits.widen = .finite negative significand' exponent' ∧
        (significand' : ℚ) * 2 ^ exponent' = significand * 2 ^ exponent := by
  obtain ⟨hcanonical, -⟩ := decode_eq_finite_iff.mp h
  have hrange : (significand : ℚ) * 2 ^ exponent ≤ double.greatest :=
    (hcanonical.le_greatest (by decide)).trans greatest_single_le
  have hleast : double.minExponent ≤ single.minExponent := by decide
  rw [widen, h]
  exact decode_ofNumber_finite (by decide) negative (hcanonical.digits.trans (by decide))
    (hleast.trans hcanonical.least) hrange

theorem decode_widen_nan (h : single.decode bits = .nan) : double.decode bits.widen = .nan := by
  rw [widen, h]
  decide

theorem decode_widen_infinite (h : single.decode bits = .infinite negative) :
    double.decode bits.widen = .infinite negative := by
  rw [widen, h]
  cases negative <;> decide

end Binary32

end ColumnCast
