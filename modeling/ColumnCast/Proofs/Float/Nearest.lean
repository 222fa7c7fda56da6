import ColumnCast.Proofs.Float.Finite
import Mathlib.Tactic.LinearCombination

/-!
# The nearest number of a format

`FloatFormat.IsNearest f x bits` says that a pattern is the finite number of the format nearest to
`x`, and of two equally near ones the one whose significand is even. Rounding a fraction up to the
greatest finite number gives this number, under the sign that is asked for
(`FloatFormat.isNearest_ofRatio`). The other numbers of the format are compared on the grid of
multiples of the quantum: a number off the grid is below a power of two on the grid that the
fraction has reached.
-/

namespace ColumnCast

/-! ### The nearest integer -/

section NearestEven

variable {num den : ℕ}

/-- An exact half is rounded to an even integer. -/
private theorem even_nearestEven_of_half (hden : 0 < den)
    (hhalf : |(nearestEven num den : ℚ) - num / den| = 1 / 2) : Even (nearestEven num den) := by
  have hd : (0 : ℚ) < den := by exact_mod_cast hden
  have hx : (num : ℚ) / den * den = num := div_mul_cancel₀ _ hd.ne'
  -- the half in integers, above or below the fraction
  have hcases : 2 * nearestEven num den * den = 2 * num + den ∨
      2 * num = 2 * nearestEven num den * den + den := by
    rcases (abs_eq (by norm_num)).mp hhalf with h | h
    · left
      have hQ : (2 : ℚ) * nearestEven num den * den = 2 * num + den := by
        linear_combination 2 * (den : ℚ) * h + 2 * hx
      exact_mod_cast hQ
    · right
      have hQ : (2 : ℚ) * num = 2 * nearestEven num den * den + den := by
        linear_combination -2 * (den : ℚ) * h - 2 * hx
      exact_mod_cast hQ
  have hdiv := Nat.div_add_mod num den
  have hmod := Nat.mod_lt num hden
  unfold nearestEven at hcases ⊢
  dsimp only at hcases ⊢
  generalize num / den = q at *
  generalize num % den = r at *
  subst hdiv
  split_ifs at hcases ⊢ with h1 h2
  · rcases hcases with h | h <;> nlinarith
  · rcases hcases with h | h <;> nlinarith
  · exact Nat.even_iff.mpr (by omega)

/-- No integer is nearer, and an equally near one means an even result. -/
private theorem nearestEven_close (hden : 0 < den) {j : ℤ} (hne : j ≠ nearestEven num den) :
    |(nearestEven num den : ℚ) - num / den| ≤ |(j : ℚ) - num / den| ∧
      (|(j : ℚ) - num / den| = |(nearestEven num den : ℚ) - num / den| →
        Even (nearestEven num den)) := by
  have hclose : |(nearestEven num den : ℚ) - num / den| ≤ 1 / 2 := abs_nearestEven_sub_le hden
  have hapart : (1 : ℚ) ≤ |(j : ℚ) - nearestEven num den| := by
    have hint : (1 : ℤ) ≤ |j - nearestEven num den| := Int.one_le_abs (sub_ne_zero.mpr hne)
    exact_mod_cast hint
  have htriangle := abs_sub_le (j : ℚ) (num / den) (nearestEven num den)
  rw [abs_sub_comm (num / den : ℚ)] at htriangle
  refine ⟨by linarith, fun htie => even_nearestEven_of_half hden ?_⟩
  linarith

end NearestEven

namespace FloatFormat

open Number (sign)

variable {f : FloatFormat} {num den : ℕ} {x y : ℚ} {bits : f.Bits}

/-! ### The grid of multiples of the quantum -/

/-- No multiple of the quantum is nearer than the rounded fraction, and an equally near one means
an even number of steps. -/
private theorem steps_close (f : FloatFormat) (num : ℕ) (hden : 0 < den) (j : ℤ) :
    |(num : ℚ) / den - f.steps num den * 2 ^ f.quantum num den| ≤
        |(num : ℚ) / den - j * 2 ^ f.quantum num den| ∧
      (|(num : ℚ) / den - j * 2 ^ f.quantum num den| =
          |(num : ℚ) / den - f.steps num den * 2 ^ f.quantum num den| →
        (j : ℚ) * 2 ^ f.quantum num den ≠ f.steps num den * 2 ^ f.quantum num den →
          Even (f.steps num den)) := by
  have hq : (0 : ℚ) < 2 ^ f.quantum num den := by positivity
  rcases eq_or_ne j (f.steps num den) with rfl | hne
  · refine ⟨le_of_eq ?_, fun _ hvalue => ?_⟩
    · push_cast
      rfl
    · push_cast at hvalue
      exact absurd rfl hvalue
  · obtain ⟨hclose, htie⟩ := nearestEven_close (scaled_den_pos hden (f.quantum num den)) hne
    rw [scaled_div] at hclose htie
    rw [abs_sub_mul_quantum, abs_sub_mul_quantum]
    refine ⟨mul_le_mul_of_nonneg_right hclose hq.le, fun heq _ => htie ?_⟩
    exact mul_right_cancel₀ hq.ne' heq

/-- A number of the format is on the grid of a fraction, or it is below a power of two on the
grid that the fraction has reached. -/
private theorem Canonical.multiple_or_lt {significand : ℕ} {exponent : ℤ}
    (h : f.Canonical significand exponent) (hnum : 0 < num) (hden : 0 < den) :
    (∃ k : ℕ, (significand : ℚ) * 2 ^ exponent = k * 2 ^ f.quantum num den) ∨
      ((significand : ℚ) * 2 ^ exponent < 2 ^ f.fractionBits * 2 ^ f.quantum num den ∧
        2 ^ f.fractionBits * 2 ^ f.quantum num den ≤ (num : ℚ) / den) := by
  rcases le_or_gt (f.quantum num den) exponent with hle | hlt
  · obtain ⟨k, hk⟩ := Int.le.dest hle
    refine Or.inl ⟨significand * 2 ^ k, ?_⟩
    rw [← hk, zpow_add₀ (by norm_num), zpow_natCast]
    push_cast
    ring
  · right
    have hq : f.quantum num den = floorLog2 num den - f.fractionBits := by
      have hleast := h.least
      rcases max_choice f.minExponent (floorLog2 num den - f.fractionBits) with hmax | hmax
      · have hmin : f.quantum num den = f.minExponent := hmax
        omega
      · exact hmax
    have hdigits : (significand : ℚ) < 2 ^ (f.fractionBits + 1) := by exact_mod_cast h.digits
    constructor
    · calc (significand : ℚ) * 2 ^ exponent < 2 ^ (f.fractionBits + 1) * 2 ^ exponent := by gcongr
        _ = 2 ^ f.fractionBits * 2 ^ (exponent + 1) := by
            rw [zpow_add_one₀ (by norm_num), pow_succ]
            ring
        _ ≤ 2 ^ f.fractionBits * 2 ^ f.quantum num den := by
            gcongr
            · norm_num
            · omega
    · have hscaled := le_scaled hnum hden hq
      rwa [le_div_iff₀ (by positivity)] at hscaled

/-- No number of the format is nearer than the rounded fraction, and an equally near one means an
even number of steps. -/
private theorem Represents.steps_close (hy : f.Represents y) (hnum : 0 < num) (hden : 0 < den) :
    |(num : ℚ) / den - f.steps num den * 2 ^ f.quantum num den| ≤ |(num : ℚ) / den - y| ∧
      (|(num : ℚ) / den - y| = |(num : ℚ) / den - f.steps num den * 2 ^ f.quantum num den| →
        y ≠ f.steps num den * 2 ^ f.quantum num den → Even (f.steps num den)) := by
  obtain ⟨negative, significand, exponent, hcanonical, rfl⟩ := represents_iff.mp hy
  rcases hcanonical.multiple_or_lt hnum hden with ⟨k, hk⟩ | ⟨hlt, hle⟩
  · have hmultiple : (sign negative : ℚ) * (significand * 2 ^ exponent) =
        ((sign negative * k : ℤ) : ℚ) * 2 ^ f.quantum num den := by
      rw [hk]
      push_cast
      ring
    rw [hmultiple]
    exact FloatFormat.steps_close f num hden (sign negative * k)
  · -- the power of two between the number and the fraction is strictly nearer
    have hpower := (FloatFormat.steps_close f num hden (2 ^ f.fractionBits)).1
    push_cast at hpower
    have hbelow : (sign negative : ℚ) * (significand * 2 ^ exponent) <
        2 ^ f.fractionBits * 2 ^ f.quantum num den :=
      calc (sign negative : ℚ) * (significand * 2 ^ exponent)
          ≤ |(sign negative : ℚ) * (significand * 2 ^ exponent)| := le_abs_self _
        _ = significand * 2 ^ exponent := by
            rw [Number.abs_sign_mul, abs_of_nonneg (by positivity)]
        _ < 2 ^ f.fractionBits * 2 ^ f.quantum num den := hlt
    rw [abs_of_nonneg (sub_nonneg.mpr hle)] at hpower
    have hdistance : |(num : ℚ) / den - sign negative * (significand * 2 ^ exponent)| =
        (num : ℚ) / den - sign negative * (significand * 2 ^ exponent) :=
      abs_of_nonneg (by linarith)
    rw [hdistance]
    exact ⟨by linarith, fun htie _ => by linarith⟩

/-! ### The nearest number -/

/-- The pattern is the finite number of the format **nearest** to `x`; when another number is
equally near, its own significand is even. -/
structure IsNearest (f : FloatFormat) (x : ℚ) (bits : f.Bits) : Prop where
  isFinite : (f.decode bits).IsFinite
  close : ∀ y, f.Represents y → |x - (f.decode bits).value| ≤ |x - y|
  isEven : ∀ y, f.Represents y → |x - y| = |x - (f.decode bits).value| →
    y ≠ (f.decode bits).value → (f.decode bits).IsEven

namespace IsNearest

theorem represents (h : f.IsNearest x bits) : f.Represents (f.decode bits).value :=
  ⟨bits, h.isFinite, rfl⟩

/-- A number is represented exactly when rounding keeps it. -/
theorem value_eq_iff (h : f.IsNearest x bits) : (f.decode bits).value = x ↔ f.Represents x := by
  constructor
  · intro hx
    rw [← hx]
    exact h.represents
  · intro hx
    have hclose := h.close x hx
    rw [sub_self, abs_zero] at hclose
    have hzero := abs_eq_zero.mp (le_antisymm hclose (abs_nonneg _))
    linarith

/-- Rounding does not pass a number of the format. -/
theorem value_le (h : f.IsNearest x bits) (hy : f.Represents y) (hle : x ≤ y) :
    (f.decode bits).value ≤ y := by
  have hclose := h.close y hy
  by_contra hlt
  rw [not_le] at hlt
  rw [abs_of_nonpos (by linarith), abs_of_nonpos (by linarith)] at hclose
  linarith

theorem le_value (h : f.IsNearest x bits) (hy : f.Represents y) (hle : y ≤ x) :
    y ≤ (f.decode bits).value := by
  have hclose := h.close y hy
  by_contra hlt
  rw [not_le] at hlt
  rw [abs_of_nonneg (by linarith), abs_of_nonneg (by linarith)] at hclose
  linarith

end IsNearest

/-- A pattern is nearest to the number that it stands for. -/
theorem isNearest_of_value_eq (hbits : (f.decode bits).IsFinite)
    (hx : (f.decode bits).value = x) : f.IsNearest x bits := by
  refine ⟨hbits, fun y _ => ?_, fun y _ htie hne => ?_⟩
  · rw [hx, sub_self, abs_zero]
    exact abs_nonneg _
  · rw [hx, sub_self, abs_zero, abs_eq_zero, sub_eq_zero] at htie
    exact absurd (htie.symm.trans hx.symm) hne

/-- A magnitude that is nearest to a fraction is so under either sign. -/
private theorem isNearest_of_sign {negative : Bool} {significand : ℕ} {exponent : ℤ}
    (hdecode : f.decode bits = .finite negative significand exponent)
    (hclose : ∀ y, f.Represents y → |x - significand * 2 ^ exponent| ≤ |x - y|)
    (heven : ∀ y, f.Represents y → |x - y| = |x - significand * 2 ^ exponent| →
      y ≠ significand * 2 ^ exponent → Even significand) :
    f.IsNearest (sign negative * x) bits := by
  have hvalue : (f.decode bits).value = sign negative * (significand * 2 ^ exponent) := by
    rw [hdecode, Number.value_finite]
  refine ⟨Number.isFinite_of_eq hdecode, fun y hy => ?_, fun y hy htie hne => ?_⟩
  · rw [hvalue, Number.abs_sign_mul_sub, Number.abs_sign_mul_sub, Number.sign_mul_sign_mul]
    exact hclose _ (hy.sign_mul negative)
  · rw [hvalue, Number.abs_sign_mul_sub, Number.abs_sign_mul_sub, Number.sign_mul_sign_mul] at htie
    rw [hdecode]
    refine heven _ (hy.sign_mul negative) htie fun heq => hne ?_
    rw [hvalue, ← heq, Number.sign_mul_sign_mul]

/-- **Rounding is to the nearest.** A fraction up to the greatest finite number becomes the finite
number nearest to it, under the given sign. -/
theorem isNearest_ofRatio (hf : 2 ≤ f.exponentBits) (hdigits : 0 < f.fractionBits)
    (negative : Bool) (hden : 0 < den) (hrange : (num : ℚ) / den ≤ f.greatest) :
    (∃ significand exponent,
      f.decode (f.ofRatio negative num den) = .finite negative significand exponent) ∧
        f.IsNearest (sign negative * ((num : ℚ) / den)) (f.ofRatio negative num den) := by
  rcases Nat.eq_zero_or_pos num with rfl | hnum
  · have hdecode : f.decode (f.ofRatio negative 0 den) = .finite negative 0 f.minExponent :=
      decode_ofMagnitude_zero (by omega) negative
    refine ⟨⟨_, _, hdecode⟩, isNearest_of_value_eq (Number.isFinite_of_eq hdecode) ?_⟩
    rw [hdecode, Number.value_finite, Nat.cast_zero, zero_mul, zero_div]
  · obtain ⟨significand, exponent, hdecode, hvalue, heven⟩ :=
      decode_ofRatio_of_lt negative hnum hden (magnitude_steps_lt hf hnum hden hrange)
    refine ⟨⟨significand, exponent, hdecode⟩, isNearest_of_sign hdecode ?_ ?_⟩
    · intro y hy
      rw [hvalue]
      exact (hy.steps_close hnum hden).1
    · intro y hy htie hne
      rw [hvalue] at htie hne
      exact (heven hdigits).mpr ((hy.steps_close hnum hden).2 htie hne)

/-- A finite number up to the greatest one of a format is rounded to the nearest. -/
theorem isNearest_ofNumber (hf : 2 ≤ f.exponentBits) (hdigits : 0 < f.fractionBits)
    (negative : Bool) {significand : ℕ} {exponent : ℤ}
    (hrange : (significand : ℚ) * 2 ^ exponent ≤ f.greatest) :
    (∃ significand' exponent',
      f.decode (f.ofNumber (.finite negative significand exponent)) =
        .finite negative significand' exponent') ∧
      f.IsNearest (Number.finite negative significand exponent).value
        (f.ofNumber (.finite negative significand exponent)) := by
  have hden := binaryRatio_den_pos significand exponent
  rw [← binaryRatio_div] at hrange
  rw [Number.value_finite, ← binaryRatio_div]
  exact isNearest_ofRatio hf hdigits negative hden hrange

/-- An integer up to the greatest finite number of a format is rounded to the nearest. -/
theorem isNearest_ofInt (hf : 2 ≤ f.exponentBits) (hdigits : 0 < f.fractionBits) {n : ℤ}
    (hrange : (n.natAbs : ℚ) ≤ f.greatest) :
    (∃ significand exponent,
      f.decode (f.ofInt n) = .finite (n < 0) significand exponent) ∧
      f.IsNearest n (f.ofInt n) := by
  have hvalue := Number.value_intCast n
  rw [Number.value_finite, zpow_zero, mul_one] at hvalue
  have hratio : (n.natAbs : ℚ) / (1 : ℕ) = n.natAbs := by rw [Nat.cast_one, div_one]
  rw [← hratio] at hrange
  obtain ⟨hdecode, hnearest⟩ := isNearest_ofRatio hf hdigits (n < 0) one_pos hrange
  rw [hratio, hvalue] at hnearest
  exact ⟨hdecode, hnearest⟩

/-- A magnitude that reaches a power of two is not rounded below it. -/
private theorem IsNearest.two_pow_le_abs (h : f.IsNearest x bits) (hf : 2 ≤ f.exponentBits) {k : ℕ}
    (hk : k ≤ 2 ^ (f.exponentBits - 1) - 1) (hx : 2 ^ k ≤ |x|) :
    2 ^ k ≤ |(f.decode bits).value| := by
  have hpower := represents_two_pow hf hk
  rcases le_abs.mp hx with hpos | hneg
  · exact le_abs.mpr (Or.inl (h.le_value hpower hpos))
  · have hle := h.value_le hpower.neg (by linarith)
    exact le_abs.mpr (Or.inr (by linarith))

/-- The number nearest to an integer is an integer. -/
theorem IsNearest.exists_int (hf : 2 ≤ f.exponentBits) (hmax : 0 ≤ f.maxExponent) {n : ℤ}
    (h : f.IsNearest n bits) : ∃ r : ℤ, (f.decode bits).value = r := by
  by_cases hn : n.natAbs < 2 ^ (f.fractionBits + 1)
  · exact ⟨n, h.value_eq_iff.mpr (represents_intCast hf hmax hn)⟩
  · -- the number is beyond the last binade with binary places
    obtain ⟨negative, significand, exponent, hdecode⟩ := h.isFinite.exists_eq
    have hk : f.fractionBits ≤ 2 ^ (f.exponentBits - 1) - 1 := by
      have hexponent := fractionBits_add_maxExponent hf
      omega
    have hlarge : (2 : ℚ) ^ f.fractionBits ≤ |(n : ℚ)| := by
      have hdouble : 2 ^ (f.fractionBits + 1) = 2 ^ f.fractionBits * 2 := pow_succ _ _
      rw [← Int.cast_abs, Int.abs_eq_natAbs, Int.cast_natCast]
      exact_mod_cast (by omega : 2 ^ f.fractionBits ≤ n.natAbs)
    have hvalue := h.two_pow_le_abs hf hk hlarge
    rw [hdecode, Number.abs_value_finite] at hvalue
    have hexponent : 0 ≤ exponent := by
      by_contra hneg
      exact hvalue.not_gt ((decode_eq_finite_iff.mp hdecode).1.lt_two_pow (not_le.mp hneg))
    obtain ⟨k, rfl⟩ := Int.eq_ofNat_of_zero_le hexponent
    refine ⟨sign negative * (significand * 2 ^ k), ?_⟩
    rw [hdecode, Number.value_finite, zpow_natCast]
    push_cast
    rfl

end FloatFormat

end ColumnCast
