import ColumnCast.Proofs.Float.Widening

/-!
# The finite numbers of a format

A format represents the fractions that its finite patterns stand for (`FloatFormat.Represents`):
with a number also its opposite, the integers of few digits, and the powers of two in its range.
A fraction exceeds the format when its magnitude is greater than that of every finite number
(`FloatFormat.Exceeds`), which is what a comparison with the greatest one tells.
-/

namespace ColumnCast

/-! ### Finite numbers -/

namespace Number

/-- The number is neither an infinity nor no number. -/
def IsFinite : Number → Prop
  | finite _ _ _ => True
  | _ => False

/-- The number is finite and its significand is even. -/
def IsEven : Number → Prop
  | finite _ significand _ => Even significand
  | _ => False

theorem IsFinite.exists_eq {number : Number} (h : number.IsFinite) :
    ∃ negative significand exponent, number = finite negative significand exponent := by
  cases number with
  | finite negative significand exponent => exact ⟨negative, significand, exponent, rfl⟩
  | nan => exact h.elim
  | infinite => exact h.elim

theorem IsEven.exists_eq {number : Number} (h : number.IsEven) :
    ∃ negative significand exponent, number = finite negative significand exponent ∧
      Even significand := by
  cases number with
  | finite negative significand exponent => exact ⟨negative, significand, exponent, rfl, h⟩
  | nan => exact h.elim
  | infinite => exact h.elim

theorem isFinite_of_eq {number : Number} {negative : Bool} {significand : ℕ} {exponent : ℤ}
    (h : number = finite negative significand exponent) : number.IsFinite := by
  rw [h]
  trivial

/-- The sign of a number as a factor. -/
def sign (negative : Bool) : ℤ :=
  if negative then -1 else 1

theorem sign_false_mul (x : ℚ) : sign false * x = x := by
  rw [sign, if_neg Bool.false_ne_true, Int.cast_one, one_mul]

theorem sign_true_mul (x : ℚ) : sign true * x = -x := by
  rw [sign, if_pos rfl, Int.cast_neg, Int.cast_one, neg_one_mul]

theorem sign_mul_sign_mul (negative : Bool) (x : ℚ) :
    sign negative * (sign negative * x) = x := by
  cases negative
  · rw [sign_false_mul, sign_false_mul]
  · rw [sign_true_mul, sign_true_mul, neg_neg]

theorem abs_sign_mul (negative : Bool) (x : ℚ) : |sign negative * x| = |x| := by
  cases negative
  · rw [sign_false_mul]
  · rw [sign_true_mul, abs_neg]

/-- A sign moves to the other end of a distance. -/
theorem abs_sign_mul_sub (negative : Bool) (x y : ℚ) :
    |sign negative * x - y| = |x - sign negative * y| := by
  rw [← abs_sign_mul negative, mul_sub, sign_mul_sign_mul]

theorem value_finite (negative : Bool) (significand : ℕ) (exponent : ℤ) :
    (finite negative significand exponent).value =
      sign negative * (significand * 2 ^ exponent) := by
  cases negative <;> simp [value, sign]

/-- An integer is a number without binary places. -/
theorem value_intCast (n : ℤ) : (finite (n < 0) n.natAbs 0).value = n := by
  have hint : sign (n < 0) * (n.natAbs : ℤ) = n := by
    rcases lt_or_ge n 0 with h | h
    · simp only [sign, h, decide_true, if_true]
      omega
    · simp only [sign, h.not_gt, decide_false, Bool.false_eq_true, if_false]
      omega
  rw [value_finite, zpow_zero, mul_one, ← Int.cast_natCast, ← Int.cast_mul, hint]

theorem abs_value_finite (negative : Bool) (significand : ℕ) (exponent : ℤ) :
    |(finite negative significand exponent).value| = significand * 2 ^ exponent := by
  rw [value_finite, abs_sign_mul, abs_of_nonneg (by positivity)]

/-- The comparison with a bound is exact. -/
theorem beyond_finite_iff {bound : ℕ} {negative : Bool} {significand : ℕ} {exponent : ℤ} :
    (finite negative significand exponent).beyond bound = true ↔
      (bound : ℚ) < |(finite negative significand exponent).value| := by
  have hden : (0 : ℚ) < (binaryRatio significand exponent).2 := by
    exact_mod_cast binaryRatio_den_pos significand exponent
  rw [abs_value_finite, ← binaryRatio_div, lt_div_iff₀ hden]
  simp only [beyond, decide_eq_true_eq]
  exact_mod_cast Iff.rfl

end Number

/-! ### Numbers of a format -/

namespace FloatFormat

open Number (sign)

variable {f : FloatFormat} {x : ℚ}

/-- The format **represents** `x`: one of its finite numbers is `x`. -/
def Represents (f : FloatFormat) (x : ℚ) : Prop :=
  ∃ bits : f.Bits, (f.decode bits).IsFinite ∧ (f.decode bits).value = x

/-- The numbers of a format are the canonical ones under either sign. -/
theorem represents_iff : f.Represents x ↔ ∃ negative significand exponent,
    f.Canonical significand exponent ∧ x = sign negative * (significand * 2 ^ exponent) := by
  constructor
  · rintro ⟨bits, hbits, rfl⟩
    obtain ⟨negative, significand, exponent, hdecode⟩ := hbits.exists_eq
    refine ⟨negative, significand, exponent, (decode_eq_finite_iff.mp hdecode).1, ?_⟩
    rw [hdecode, Number.value_finite]
  · rintro ⟨negative, significand, exponent, hcanonical, rfl⟩
    have hdecode : f.decode (f.ofMagnitude negative (f.magnitude significand exponent)) =
        .finite negative significand exponent :=
      decode_eq_finite_iff.mpr ⟨hcanonical, rfl⟩
    refine ⟨_, Number.isFinite_of_eq hdecode, ?_⟩
    rw [hdecode, Number.value_finite]

theorem Canonical.represents {significand : ℕ} {exponent : ℤ}
    (h : f.Canonical significand exponent) : f.Represents (significand * 2 ^ exponent) :=
  represents_iff.mpr ⟨false, significand, exponent, h, (Number.sign_false_mul _).symm⟩

/-- The other sign is always there. -/
theorem Represents.neg (h : f.Represents x) : f.Represents (-x) := by
  obtain ⟨negative, significand, exponent, hcanonical, rfl⟩ := represents_iff.mp h
  refine represents_iff.mpr ⟨!negative, significand, exponent, hcanonical, ?_⟩
  cases negative
  · rw [Bool.not_false, Number.sign_true_mul, Number.sign_false_mul]
  · rw [Bool.not_true, Number.sign_true_mul, Number.sign_false_mul, neg_neg]

theorem Represents.sign_mul (h : f.Represents x) (negative : Bool) :
    f.Represents (sign negative * x) := by
  cases negative
  · rwa [Number.sign_false_mul]
  · rw [Number.sign_true_mul]
    exact h.neg

theorem represents_zero (hf : 2 ≤ f.exponentBits) : f.Represents 0 := by
  have hzero := (canonical_zero (by omega : 0 < f.exponentBits)).represents
  rwa [Nat.cast_zero, zero_mul] at hzero

/-- A number that the fields of the format have room for is represented. -/
private theorem represents_finite (hf : 2 ≤ f.exponentBits) (negative : Bool) {significand : ℕ}
    {exponent : ℤ} (hdigits : significand < 2 ^ (f.fractionBits + 1))
    (hexponent : f.minExponent ≤ exponent)
    (hrange : (significand : ℚ) * 2 ^ exponent ≤ f.greatest) :
    f.Represents (Number.finite negative significand exponent).value := by
  obtain ⟨significand', exponent', hdecode, hvalue⟩ :=
    decode_ofNumber_finite hf negative hdigits hexponent hrange
  refine ⟨f.ofNumber (.finite negative significand exponent), Number.isFinite_of_eq hdecode, ?_⟩
  rw [hdecode, Number.value_finite, Number.value_finite, hvalue]

/-- The integers of as many digits as a significand are represented. -/
theorem represents_intCast (hf : 2 ≤ f.exponentBits) (hmax : 0 ≤ f.maxExponent) {n : ℤ}
    (hn : n.natAbs < 2 ^ (f.fractionBits + 1)) : f.Represents n := by
  rw [← Number.value_intCast]
  refine represents_finite hf _ hn (minExponent_nonpos hf) ?_
  rw [zpow_zero, mul_one]
  exact natCast_le_greatest hmax hn

/-- The powers of two up to the greatest one are represented. -/
theorem represents_two_pow (hf : 2 ≤ f.exponentBits) {k : ℕ}
    (hk : k ≤ 2 ^ (f.exponentBits - 1) - 1) : f.Represents (2 ^ k) := by
  have hvalue : (Number.finite false 1 k).value = 2 ^ k := by
    rw [Number.value_finite, Number.sign_false_mul, Nat.cast_one, one_mul, zpow_natCast]
  rw [← hvalue]
  refine represents_finite hf false (Nat.one_lt_two_pow (by omega))
    ((minExponent_nonpos hf).trans (Int.natCast_nonneg k)) ?_
  rw [Nat.cast_one, one_mul, zpow_natCast]
  exact two_pow_le_greatest hf hk

/-- Numbers with binary places are below the power of two that the fraction digits end at. -/
theorem Canonical.lt_two_pow {significand : ℕ} {exponent : ℤ}
    (h : f.Canonical significand exponent) (hneg : exponent < 0) :
    (significand : ℚ) * 2 ^ exponent < 2 ^ f.fractionBits := by
  have hdigits : (significand : ℚ) < 2 ^ (f.fractionBits + 1) := by exact_mod_cast h.digits
  have hplaces : (2 : ℚ) ^ exponent ≤ 2 ^ (-1 : ℤ) :=
    zpow_le_zpow_right₀ (by norm_num) (by omega)
  calc (significand : ℚ) * 2 ^ exponent ≤ significand * 2 ^ (-1 : ℤ) := by gcongr
    _ < 2 ^ (f.fractionBits + 1) * 2 ^ (-1 : ℤ) := by gcongr
    _ = 2 ^ f.fractionBits := by
        rw [pow_succ, zpow_neg_one, mul_assoc, mul_inv_cancel₀ two_ne_zero, mul_one]

/-! ### Beyond the greatest finite number -/

/-- The magnitude of `x` is **greater than every finite number** of the format. -/
def Exceeds (f : FloatFormat) (x : ℚ) : Prop :=
  ∀ y, f.Represents y → y < |x|

theorem abs_le_greatest (hf : 2 ≤ f.exponentBits) (h : f.Represents x) : |x| ≤ f.greatest := by
  obtain ⟨negative, significand, exponent, hcanonical, rfl⟩ := represents_iff.mp h
  rw [Number.abs_sign_mul, abs_of_nonneg (by positivity)]
  exact hcanonical.le_greatest hf

theorem exceeds_iff (hf : 2 ≤ f.exponentBits) : f.Exceeds x ↔ f.greatest < |x| := by
  constructor
  · intro h
    exact h f.greatest (canonical_greatest hf).represents
  · intro h y hy
    calc y ≤ |y| := le_abs_self y
      _ ≤ f.greatest := abs_le_greatest hf hy
      _ < |x| := h

theorem not_exceeds_of_represents (hf : 2 ≤ f.exponentBits) (h : f.Represents x) :
    ¬f.Exceeds x := by
  rw [exceeds_iff hf, not_lt]
  exact abs_le_greatest hf h

/-- Where the greatest finite number is an integer, `maxFinite` is it. -/
theorem natCast_maxFinite (h : 0 ≤ f.maxExponent) : (f.maxFinite : ℚ) = f.greatest := by
  obtain ⟨k, hk⟩ := Int.eq_ofNat_of_zero_le h
  have hexponent : f.minExponent + (pow2 f.exponentBits - 3 : ℕ) = k := hk
  rw [maxFinite, hexponent, greatest, hk, zpow_natCast]
  simp [binaryRatio]

end FloatFormat

end ColumnCast
