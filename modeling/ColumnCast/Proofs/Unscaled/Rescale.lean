import ColumnCast.Proofs.Float.DigitCount
import ColumnCast.Proofs.Unscaled.Nearest

/-!
# Rescaling and precision are exact

The bounds on the digit count decide most values without a power of ten. For values of fewer
than `2 ^ 50` bits they decide correctly: `fitsPrecision` is the comparison with the power
(`fitsPrecision_iff`), and `rescale` is the product with the power or the rounded quotient by it
(`rescale_exact`), also where it answers zero without a division. Beyond `2 ^ 50` bits a value has
more digits than any scale can drop, so there `rescale` always divides (`rescale_negSucc`).

Each answer of the precision check is that of the comparison, and the power is built only for a
value of about as many digits (`fitsPrecision_exact`).
-/

namespace ColumnCast

private theorem pow10_eq (k : ℕ) : pow10 k = 10 ^ k :=
  rfl

namespace Unscaled

variable {v : ℤ} {p : ℕ}

/-! ### Bit lengths -/

/-- A value has at most `n` bits when its magnitude is below `2 ^ n`. -/
theorem bits_le_iff {n : ℕ} : bits v ≤ n ↔ v.natAbs < 2 ^ n := by
  unfold bits
  split_ifs with hv
  · simp [hv]
  · rw [Nat.succ_le_iff, Nat.log2_lt (Int.natAbs_ne_zero.mpr hv)]

private theorem natAbs_lt_two_pow_bits (v : ℤ) : v.natAbs < 2 ^ bits v :=
  bits_le_iff.mp le_rfl

private theorem bits_pos (hv : v ≠ 0) : 0 < bits v := by
  unfold bits
  rw [if_neg hv]
  exact Nat.succ_pos _

private theorem two_pow_le_natAbs (hv : v ≠ 0) : 2 ^ (bits v - 1) ≤ v.natAbs := by
  unfold bits
  rw [if_neg hv, Nat.add_sub_cancel]
  exact Nat.log2_self_le (Int.natAbs_ne_zero.mpr hv)

@[simp]
private theorem bits_neg (v : ℤ) : bits (-v) = bits v := by
  simp only [bits, neg_eq_zero, Int.natAbs_neg]

private theorem bits_mono {w : ℤ} (h : v.natAbs ≤ w.natAbs) : bits v ≤ bits w :=
  bits_le_iff.mpr (h.trans_lt (natAbs_lt_two_pow_bits w))

private theorem abs_lt_ten_pow_iff : |v| < 10 ^ p ↔ v.natAbs < 10 ^ p := by
  rw [Int.abs_eq_natAbs]
  exact_mod_cast Iff.rfl

/-- A value of at most `p` digits has at most `4 * p` bits. -/
theorem bits_le_of_abs_lt_ten_pow (h : |v| < 10 ^ p) : bits v ≤ 4 * p :=
  bits_le_iff.mpr <|
    calc v.natAbs < 10 ^ p := abs_lt_ten_pow_iff.mp h
      _ ≤ 16 ^ p := Nat.pow_le_pow_left (by norm_num) p
      _ = 2 ^ (4 * p) := by rw [pow_mul]; norm_num

/-! ### The bounds on the digit count -/

private theorem digitBounds_of_ne_zero (hv : v ≠ 0) :
    digitBounds v = (DigitCount.floor (bits v - 1), DigitCount.ceil (bits v) + 1) := by
  rw [digitBounds, if_neg (bits_pos hv).ne']

/-- The upper bound leaves one digit to spare. -/
private theorem natAbs_lt_of_digitBounds_lt (hlt : bits v < 2 ^ 50)
    (h : (digitBounds v).2 < p + 1) : v.natAbs < 10 ^ p := by
  by_cases hv : v = 0
  · simp [hv]
  · rw [digitBounds_of_ne_zero hv] at h
    have hceil : DigitCount.ceil (bits v) < p := by
      dsimp only at h
      omega
    exact (natAbs_lt_two_pow_bits v).trans
      (DigitCount.two_pow_lt_of_ceil_lt (bits_pos hv) hlt hceil)

/-- An upper bound below `2 ^ 32` digits is that of a value of fewer than `2 ^ 50` bits. -/
private theorem bits_lt_of_digitBounds_lt (hlt : bits v < 2 ^ 53) (hp : p < 2 ^ 32)
    (h : (digitBounds v).2 < p) : bits v < 2 ^ 50 := by
  rcases Nat.eq_zero_or_pos (bits v) with hzero | hpos
  · omega
  · have hceil := DigitCount.le_eight_mul_ceil hpos hlt
    rw [digitBounds, if_neg hpos.ne'] at h
    dsimp only at h
    omega

/-- A value has more digits than its lower bound exceeds. -/
private theorem ten_pow_le_natAbs (hlt : bits v < 2 ^ 50) (hv : v ≠ 0)
    (h : p < (digitBounds v).1) : 10 ^ p ≤ v.natAbs := by
  rw [digitBounds_of_ne_zero hv] at h
  exact (DigitCount.ten_pow_lt_of_lt_floor (by omega) h).le.trans (two_pow_le_natAbs hv)

/-! ### Precision -/

private theorem exponent_of_lt {n : ℕ} (hn : n < 2 ^ 32) : exponent n = n :=
  min_eq_left (by
    have : UInt32.size = 2 ^ 32 := rfl
    omega)

/-- **Precision.** The check is the comparison with the power of ten. -/
theorem fitsPrecision_iff (hlt : bits v < 2 ^ 50) (hp : p < 2 ^ 32) :
    fitsPrecision v p = true ↔ |v| < 10 ^ p := by
  rw [abs_lt_ten_pow_iff]
  unfold fitsPrecision
  split_ifs with hv hhigh hlow
  · simp [hv]
  · exact iff_of_true rfl (natAbs_lt_of_digitBounds_lt hlt (by omega))
  · exact iff_of_false (by simp) (not_lt.mpr (ten_pow_le_natAbs hlt hv hlow))
  · rw [exponent_of_lt hp, pow10_eq, decide_eq_true_iff]

/-! ### Rescaling -/

theorem rescale_natCast {d : ℕ} (hd : d < 2 ^ 32) : rescale v d = v * 10 ^ d := by
  change (if v = 0 then 0 else v * (pow10 (exponent d) : ℤ)) = v * 10 ^ d
  rw [exponent_of_lt hd, pow10_eq]
  split_ifs with hv
  · simp [hv]
  · push_cast
    rfl

/-- A value of at most `k` digits is less than a tenth of `10 ^ (k + 1)`, and so rounds to zero. -/
private theorem roundedQuotient_ten_pow_of_abs_lt {k : ℕ} (h : |v| < 10 ^ k) :
    roundedQuotient v (10 ^ (k + 1)) = 0 := by
  have hten : (0 : ℚ) < 10 ^ k := by positivity
  have hvQ : |(v : ℚ)| < 10 ^ k := by exact_mod_cast h
  have hzero : IsNearestAway ((v : ℚ) / ((10 ^ (k + 1) : ℤ) : ℚ)) 0 := by
    refine IsNearestAway.zero_of_abs_lt ?_
    push_cast
    rw [abs_div, abs_of_pos (by positivity : (0 : ℚ) < 10 ^ (k + 1)),
      div_lt_div_iff₀ (by positivity) (by norm_num), pow_succ]
    linarith
  exact (isNearestAway_roundedQuotient v (by positivity)).unique hzero

/-- Dropping digits is the rounded division by their power of ten, whether or not the division is
made. -/
theorem rescale_negSucc {k : ℕ} (hlt : bits v < 2 ^ 53) (hk : k + 1 < 2 ^ 32) :
    rescale v (Int.negSucc k) = roundedQuotient v (10 ^ (k + 1)) := by
  change (if (digitBounds v).2 < k + 1 then 0
    else roundedQuotient v (pow10 (exponent (k + 1)))) = _
  split_ifs with hshort
  · have hbits := bits_lt_of_digitBounds_lt hlt hk hshort
    have hsmall := abs_lt_ten_pow_iff.mpr (natAbs_lt_of_digitBounds_lt hbits hshort)
    exact (roundedQuotient_ten_pow_of_abs_lt hsmall).symm
  · rw [exponent_of_lt hk, pow10_eq]
    push_cast
    rfl

/-- **Rescaling.** Moving a value by `d` digits gives the integer nearest to `v * 10 ^ d`, a tie
going away from zero. -/
theorem isNearestAway_rescale {d : ℤ} (hlt : bits v < 2 ^ 53) (hd : |d| < 2 ^ 32) :
    IsNearestAway ((v : ℚ) * 10 ^ d) (rescale v d) := by
  rw [abs_lt] at hd
  cases d with
  | ofNat n =>
    have hn : n < 2 ^ 32 := by
      rw [Int.ofNat_eq_natCast] at hd
      omega
    have h := IsNearestAway.intCast (v * 10 ^ n)
    rw [Int.ofNat_eq_natCast, rescale_natCast hn, zpow_natCast]
    push_cast at h ⊢
    exact h
  | negSucc k =>
    have h := isNearestAway_roundedQuotient v (b := 10 ^ (k + 1)) (by positivity)
    rw [zpow_negSucc, ← div_eq_mul_inv, rescale_negSucc hlt (by omega)]
    push_cast at h
    exact h

/-- Rescaling keeps the order of values. -/
theorem rescale_mono {w d : ℤ} (hv : bits v < 2 ^ 53) (hw : bits w < 2 ^ 53) (hd : |d| < 2 ^ 32)
    (hle : v ≤ w) : rescale v d ≤ rescale w d := by
  have hscaled : (v : ℚ) * 10 ^ d ≤ (w : ℚ) * 10 ^ d := by
    have hleQ : (v : ℚ) ≤ w := by exact_mod_cast hle
    gcongr
  exact (isNearestAway_rescale hv hd).mono (isNearestAway_rescale hw hd) hscaled

/-- Opposite values are rescaled to opposite values. -/
private theorem rescale_neg {d : ℤ} (hlt : bits v < 2 ^ 53) (hd : |d| < 2 ^ 32) :
    rescale (-v) d = -rescale v d := by
  have hneg := isNearestAway_rescale (v := -v) (by rwa [bits_neg]) hd
  rw [Int.cast_neg, neg_mul] at hneg
  exact hneg.unique (isNearestAway_rescale hlt hd).neg

/-- Zero is zero at every scale. -/
theorem rescale_zero {d : ℤ} (hd : |d| < 2 ^ 32) : rescale 0 d = 0 := by
  have hzero := isNearestAway_rescale (v := 0) (by decide) hd
  rw [Int.cast_zero, zero_mul, ← Int.cast_zero] at hzero
  exact hzero.unique (.intCast 0)

/-- Rescaling adds at most four bits for each digit. -/
theorem bits_rescale_le {d : ℤ} (hlt : bits v < 2 ^ 53) (hd : |d| < 2 ^ 32) :
    bits (rescale v d) ≤ bits v + 4 * d.toNat := by
  cases d with
  | ofNat n =>
    have hn : n < 2 ^ 32 := by
      rw [abs_lt, Int.ofNat_eq_natCast] at hd
      omega
    rw [Int.ofNat_eq_natCast, rescale_natCast hn, Int.toNat_natCast, bits_le_iff,
      Int.natAbs_mul, Int.natAbs_pow]
    calc v.natAbs * 10 ^ n < 2 ^ bits v * 10 ^ n := by
          gcongr
          exact natAbs_lt_two_pow_bits v
      _ ≤ 2 ^ bits v * 16 ^ n := by gcongr; norm_num
      _ = 2 ^ (bits v + 4 * n) := by rw [pow_add, pow_mul]; norm_num
  | negSucc k =>
    refine (bits_mono ((isNearestAway_rescale hlt hd).natAbs_le ?_)).trans (Nat.le_add_right _ _)
    have hten : (2 : ℚ) ≤ 10 ^ (k + 1) :=
      le_trans (by norm_num) (le_self_pow₀ (by norm_num : (1 : ℚ) ≤ 10) (Nat.succ_ne_zero k))
    rw [zpow_negSucc, abs_mul, abs_intCast_eq_natAbs, abs_of_pos (by positivity), ← div_eq_mul_inv]
    gcongr

/-- **Two steps are one.** After an exact step up a second step rounds as the sum of both. -/
theorem rescale_rescale {d e : ℤ} (hv : bits v < 2 ^ 50) (hd : 0 ≤ d) (hd' : |d| < 2 ^ 32)
    (he : |e| < 2 ^ 32) (hde : |d + e| < 2 ^ 32) :
    rescale (rescale v d) e = rescale v (d + e) := by
  have hmid := bits_rescale_le (hv.trans (by norm_num)) hd'
  obtain ⟨n, rfl⟩ := Int.eq_ofNat_of_zero_le hd
  have hn : n < 2 ^ 32 := by
    rw [abs_lt] at hd'
    omega
  have hstep := isNearestAway_rescale (v := rescale v n) (by omega) he
  have hsum := isNearestAway_rescale (hv.trans (by norm_num)) hde
  rw [zpow_add₀ (by norm_num), zpow_natCast, ← mul_assoc] at hsum
  rw [rescale_natCast hn] at hstep ⊢
  push_cast at hstep
  exact hstep.unique hsum

/-- **Exact rescaling.** Moving a value up multiplies by the power of ten, and moving it down is
the rounded division by the power, so the nearest integer with ties away from zero; a shortcut
never shows. Opposite values are moved to opposite values, and a step up and any second step come
to one step by their sum. -/
theorem rescale_exact (hv : bits v < 2 ^ 50) :
    (∀ d : ℤ, |d| < 2 ^ 32 →
      (0 ≤ d → rescale v d = v * 10 ^ d.natAbs) ∧
      (d < 0 → divide? v (10 ^ d.natAbs) = some (rescale v d) ∧
        IsNearestAway ((v : ℚ) / 10 ^ d.natAbs) (rescale v d)) ∧
      rescale (-v) d = -rescale v d) ∧
    ∀ d e : ℤ, 0 ≤ d → |d| < 2 ^ 32 → |e| < 2 ^ 32 → |d + e| < 2 ^ 32 →
      rescale (rescale v d) e = rescale v (d + e) := by
  have hlt : bits v < 2 ^ 53 := hv.trans (by norm_num)
  refine ⟨fun d hd => ⟨fun hup => ?_, fun hdown => ?_, rescale_neg hlt hd⟩,
    fun d e hup hd he hde => rescale_rescale hv hup hd he hde⟩
  · obtain ⟨n, rfl⟩ := Int.eq_ofNat_of_zero_le hup
    rw [abs_lt] at hd
    rw [Int.natAbs_natCast, rescale_natCast (by omega)]
  · obtain ⟨k, rfl⟩ := Int.eq_negSucc_of_lt_zero hdown
    have hnearest := isNearestAway_rescale hlt hd
    rw [zpow_negSucc, ← div_eq_mul_inv] at hnearest
    rw [abs_lt] at hd
    have hquotient := rescale_negSucc hlt (show k + 1 < 2 ^ 32 by omega)
    refine ⟨?_, hnearest⟩
    rw [Int.natAbs_negSucc, hquotient]
    exact if_neg (by positivity)

/-- Two hundred digits are dropped from a value of nine without their power of ten, and the rounded
division by the power gives the same. -/
theorem rescale_exact_short :
    rescale (-123456789) (-200) = 0 ∧
      divide? (-123456789) (10 ^ 200) = some (rescale (-123456789) (-200)) ∧
      rescale (rescale (-55) 3) (-4) = rescale (-55) (-1) := by
  obtain ⟨hstep, -⟩ := rescale_exact (v := -123456789) (by decide)
  obtain ⟨-, hsteps⟩ := rescale_exact (v := -55) (by decide)
  have hdivide := ((hstep (-200) (by decide)).2.1 (by decide)).1
  exact ⟨by decide +kernel, hdivide,
    hsteps 3 (-4) (by decide) (by decide) (by decide) (by decide)⟩

/-! ### The ways in which the precision check decides -/

private theorem ten_pow_le_abs_iff : 10 ^ p ≤ |v| ↔ 10 ^ p ≤ v.natAbs := by
  rw [← not_lt, abs_lt_ten_pow_iff, not_lt]

/-- A value that the lower bound does not refuse is not far above the power. -/
private theorem abs_lt_of_digitBounds_le (hlt : bits v < 2 ^ 50) (hv : v ≠ 0)
    (h : (digitBounds v).1 ≤ p) : |v| < 200 * 10 ^ p := by
  rw [digitBounds_of_ne_zero hv] at h
  dsimp only at h
  have hbits := bits_pos hv
  have hpower : 2 ^ (bits v - 1) < 10 ^ (p + 2) :=
    DigitCount.two_pow_lt_of_floor_lt (by omega) (by omega)
  have hnat : v.natAbs < 200 * 10 ^ p :=
    calc v.natAbs < 2 ^ bits v := natAbs_lt_two_pow_bits v
      _ = 2 * 2 ^ (bits v - 1) := by rw [← pow_succ', Nat.sub_add_cancel hbits]
      _ < 2 * 10 ^ (p + 2) := by omega
      _ = 200 * 10 ^ p := by ring
  rw [Int.abs_eq_natAbs]
  exact_mod_cast hnat

/-- A power of at most three digits is not far above any value but zero. -/
private theorem ten_pow_lt_of_le_two (hv : v ≠ 0) (hp : p ≤ 2) : 10 ^ p < 200 * v.natAbs := by
  have hpos := Int.natAbs_pos.mpr hv
  have hpower : 10 ^ p ≤ 10 ^ 2 := Nat.pow_le_pow_right (by norm_num) hp
  omega

/-- A value that the upper bound does not accept is not far below the power. -/
private theorem ten_pow_lt_of_lt_digitBounds (hlt : bits v < 2 ^ 50) (hv : v ≠ 0)
    (h : p < (digitBounds v).2) : 10 ^ p < 200 * |v| := by
  have hnat : 10 ^ p < 200 * v.natAbs := by
    rcases le_or_gt p 2 with hp | hp
    · exact ten_pow_lt_of_le_two hv hp
    · rw [digitBounds_of_ne_zero hv] at h
      dsimp only at h
      have hbits := bits_pos hv
      obtain ⟨t, rfl⟩ := Nat.exists_eq_add_of_le hp.le
      have hpower : 10 ^ t < 2 ^ bits v := DigitCount.ten_pow_lt_of_lt_ceil hbits hlt (by omega)
      calc 10 ^ (2 + t) = 100 * 10 ^ t := by ring
        _ < 100 * 2 ^ bits v := by omega
        _ = 200 * 2 ^ (bits v - 1) := by
            rw [← Nat.sub_add_cancel hbits, pow_succ', Nat.add_sub_cancel]
            ring
        _ ≤ 200 * v.natAbs := Nat.mul_le_mul_left _ (two_pow_le_natAbs hv)
  rw [Int.abs_eq_natAbs]
  exact_mod_cast hnat

/-- **The precision check** is the comparison with the power of ten. The upper bound accepts only
what is below the power, the lower bound refuses only what is not, and where neither decides, the
power that is built is within a factor of two hundred of the value. -/
theorem fitsPrecision_exact (hlt : bits v < 2 ^ 50) (precision : UInt32) :
    (fitsPrecision v precision.toNat = true ↔ |v| < 10 ^ precision.toNat) ∧
      ((digitBounds v).2 ≤ precision.toNat → |v| < 10 ^ precision.toNat) ∧
      (v ≠ 0 → precision.toNat < (digitBounds v).1 → 10 ^ precision.toNat ≤ |v|) ∧
      (v ≠ 0 → (digitBounds v).1 ≤ precision.toNat → precision.toNat < (digitBounds v).2 →
        |v| < 200 * 10 ^ precision.toNat ∧ 10 ^ precision.toNat < 200 * |v|) := by
  refine ⟨fitsPrecision_iff hlt precision.toNat_lt, fun hhigh => ?_, fun hv hlow => ?_,
    fun hv hle hgt => ⟨abs_lt_of_digitBounds_le hlt hv hle,
      ten_pow_lt_of_lt_digitBounds hlt hv hgt⟩⟩
  · exact abs_lt_ten_pow_iff.mpr (natAbs_lt_of_digitBounds_lt hlt (Nat.lt_succ_of_le hhigh))
  · exact ten_pow_le_abs_iff.mpr (ten_pow_le_natAbs hlt hv hlow)

/-- Forty nines have forty digits, and one more is one digit too many. -/
theorem fitsPrecision_exact_forty :
    fitsPrecision (1 - 10 ^ 40) 40 = true ∧ fitsPrecision (-10 ^ 40) 40 = false := by
  obtain ⟨hnines, -⟩ := fitsPrecision_exact (v := 1 - 10 ^ 40) (by decide +kernel) 40
  obtain ⟨hpower, -⟩ := fitsPrecision_exact (v := -10 ^ 40) (by decide +kernel) 40
  refine ⟨hnines.mpr (by decide +kernel), Bool.eq_false_iff.mpr fun hfits => ?_⟩
  exact absurd (hpower.mp hfits) (by decide +kernel)

end Unscaled

end ColumnCast
