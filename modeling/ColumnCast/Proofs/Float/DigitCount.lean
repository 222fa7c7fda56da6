import ColumnCast.Proofs.Float.Logarithm
import ColumnCast.Proofs.Float.Rounding
import Mathlib.Tactic.NormNum

/-!
# The estimate of the digit count

For bit counts below `2 ^ 50` the estimate of `DigitCount` is off by less than one tenth of a
digit, so its integer part never exceeds, and its ceiling never falls short of, the number of
digits that the bits are worth (`ten_pow_lt_of_lt_floor`, `two_pow_lt_of_ceil_lt`).
`le_floor_iff` says exactly which digit counts the integer part reaches.
-/

namespace ColumnCast

namespace DigitCount

open FloatFormat

/-- The product that the estimate rounds. -/
def product (bits : ℕ) : ℚ :=
  bits * log10Of2 / 2 ^ 54

/-- An integer of at most 53 bits is a double. -/
private theorem decode_ofInt {n : ℕ} (hn : 0 < n) (hlt : n < 2 ^ 53) :
    ∃ significand exponent,
      double.decode (double.ofInt n) = .finite false significand exponent ∧
        (significand : ℚ) * 2 ^ exponent = n := by
  have hrange : (n : ℚ) / (1 : ℕ) < 2 ^ (2 ^ (double.exponentBits - 1) - 1) := by
    have hlt' : (n : ℚ) < 2 ^ 53 := by exact_mod_cast hlt
    rw [Nat.cast_one, div_one]
    exact hlt'.trans_le (pow_le_pow_right₀ (by norm_num) (by decide))
  obtain ⟨significand, exponent, hdecode, hvalue⟩ :=
    decode_ofRatio (by decide) false hn one_pos hrange
  refine ⟨significand, exponent, ?_, hvalue.trans ?_⟩
  · have hsign : decide ((n : ℤ) < 0) = false := by simp
    rw [ofInt, hsign, Int.natAbs_natCast]
    exact hdecode
  · -- the quantum is at most one, so the integer is a whole number of quanta
    have hlog : floorLog2 n 1 < 53 := by
      rw [floorLog2_eq hn one_pos, Nat.cast_one, div_one,
        ← Int.lt_zpow_iff_log_lt (by norm_num) (by exact_mod_cast hn)]
      exact_mod_cast hlt
    have hq : double.quantum n 1 ≤ 0 :=
      max_le (by decide) (by
        have : (double.fractionBits : ℤ) = 52 := rfl
        omega)
    obtain ⟨j, hj⟩ := Int.eq_ofNat_of_zero_le (neg_nonneg.mpr hq)
    have hquantum : double.quantum n 1 = -(j : ℤ) := by omega
    have hsteps : double.steps n 1 = n * 2 ^ j := by
      have hone : 1 * pow2 (-(j : ℤ)).toNat = 1 := by simp
      rw [steps, hquantum, hone, neg_neg, Int.toNat_natCast, pow2_eq]
      simpa using nearestEven_mul_self one_pos (n * 2 ^ j)
    rw [hsteps, hquantum, zpow_neg, zpow_natCast]
    push_cast
    rw [mul_inv_cancel_right₀ (by positivity)]

private theorem log10Of2_pos : 0 < log10Of2 := by
  decide

/-- The product with `log10Of2` lies between a quarter and a half of a digit for each bit. -/
private theorem product_bounds (bits : ℕ) :
    (bits : ℚ) / 4 ≤ product bits ∧ product bits ≤ bits / 2 := by
  have hlow : (2 : ℚ) ^ 54 ≤ 4 * log10Of2 := by norm_num [log10Of2]
  have hhigh : 2 * (log10Of2 : ℚ) ≤ 2 ^ 54 := by norm_num [log10Of2]
  have hbits : (0 : ℚ) ≤ bits := Nat.cast_nonneg _
  unfold product
  constructor
  · rw [div_le_div_iff₀ (by norm_num) (by norm_num)]
    nlinarith
  · rw [div_le_div_iff₀ (by norm_num) (by norm_num)]
    nlinarith

/-- The estimate is the product rounded to a normal double. -/
private theorem estimate_eq {bits : ℕ} (hbits : 0 < bits) (hlt : bits < 2 ^ 53) :
    ∃ (num den significand : ℕ) (exponent : ℤ), 0 < num ∧ 0 < den ∧
      (num : ℚ) / den = product bits ∧
      double.minExponent + double.fractionBits ≤ floorLog2 num den ∧
      estimate bits = .finite false significand exponent ∧
      (significand : ℚ) * 2 ^ exponent
        = double.steps num den * 2 ^ double.quantum num den := by
  obtain ⟨s, e, hdecode, hvalue⟩ := decode_ofInt hbits hlt
  have hratio := binaryRatio_div s e
  have hden := binaryRatio_den_pos s e
  rw [hvalue] at hratio
  have hnum : 0 < (binaryRatio s e).1 := by
    refine Nat.pos_of_ne_zero fun h0 => hbits.ne' ?_
    rw [h0, Nat.cast_zero, zero_div] at hratio
    exact_mod_cast hratio.symm
  have hnum' : 0 < (binaryRatio s e).1 * log10Of2 := Nat.mul_pos hnum log10Of2_pos
  have hden' : 0 < (binaryRatio s e).2 * pow2 54 := Nat.mul_pos hden (Nat.two_pow_pos _)
  have hproduct : (((binaryRatio s e).1 * log10Of2 : ℕ) : ℚ)
      / ((binaryRatio s e).2 * pow2 54 : ℕ) = product bits := by
    rw [product, ← hratio, pow2_eq]
    push_cast
    ring
  obtain ⟨hlow, hhigh⟩ := product_bounds bits
  have hbits1 : (1 : ℚ) ≤ bits := by exact_mod_cast hbits
  have hbits53 : (bits : ℚ) < 2 ^ 53 := by exact_mod_cast hlt
  have hrange : product bits < 2 ^ (2 ^ (double.exponentBits - 1) - 1) :=
    calc product bits ≤ bits / 2 := hhigh
      _ < 2 ^ 53 := by linarith
      _ ≤ 2 ^ (2 ^ (double.exponentBits - 1) - 1) :=
          pow_le_pow_right₀ (by norm_num) (by decide)
  -- a product of at least one quarter is far above the subnormal numbers
  have hnormal : double.minExponent + double.fractionBits
      ≤ floorLog2 ((binaryRatio s e).1 * log10Of2) ((binaryRatio s e).2 * pow2 54) := by
    have hlog : -2 ≤ floorLog2 ((binaryRatio s e).1 * log10Of2)
        ((binaryRatio s e).2 * pow2 54) := by
      rw [floorLog2_eq hnum' hden', hproduct,
        ← Int.zpow_le_iff_le_log (by norm_num) (by linarith)]
      norm_num
      linarith
    exact le_trans (by decide) hlog
  obtain ⟨s', e', hdecode', hvalue'⟩ :=
    decode_ofRatio (by decide) false hnum' hden' (hproduct ▸ hrange)
  refine ⟨_, _, s', e', hnum', hden', hproduct, hnormal, ?_, hvalue'⟩
  rw [estimate, hdecode]
  exact hdecode'

/-! ### How far the estimate is off -/

variable {bits : ℕ}

/-- Three facts about the value of the estimate: its integer parts, its relative error and the
integers that it reaches. -/
private theorem value_estimate (hbits : 0 < bits) (hlt : bits < 2 ^ 53) :
    (floor bits : ℤ) = ⌊(estimate bits).value⌋ ∧ (ceil bits : ℤ) = ⌈(estimate bits).value⌉ ∧
      |(estimate bits).value - product bits| ≤ product bits / 2 ^ 53 ∧
      ∀ k : ℕ, 2 ≤ k → k ≤ 2 ^ 52 → ((k : ℚ) ≤ (estimate bits).value ↔
        (k : ℚ) - 2 ^ (((k - 1).log2 : ℤ) - 53) ≤ product bits) := by
  obtain ⟨num, den, s, e, hnum, hden, hproduct, hnormal, hestimate, hvalue⟩ :=
    estimate_eq hbits hlt
  have hval : (estimate bits).value = double.steps num den * 2 ^ double.quantum num den := by
    rw [hestimate, Number.value, ← hvalue]
    simp
  have hnonneg : 0 ≤ (estimate bits).value := by
    rw [hval]
    positivity
  refine ⟨?_, ?_, ?_, fun k hk2 hk => ?_⟩
  · rw [floor, hestimate, Number.floor?_finite, Option.getD_some, ← hestimate]
    exact Int.toNat_of_nonneg (Int.floor_nonneg.mpr hnonneg)
  · rw [ceil, hestimate, Number.ceil?_finite, Option.getD_some, ← hestimate]
    exact Int.toNat_of_nonneg (Int.ceil_nonneg hnonneg)
  · rw [hval, ← hproduct]
    exact abs_rounded_sub_le hnum hden hnormal
  · have hgap : ((k - 1).log2 : ℤ) - (double.fractionBits + 1) = ((k - 1).log2 : ℤ) - 53 := by
      rw [show double.fractionBits = 52 from rfl]
      omega
    rw [hval, ← hproduct, ← hgap]
    exact le_rounded_iff hnum hden hnormal hk2 hk

private theorem floor_zero : floor 0 = 0 := by
  decide +kernel

/-- Below `2 ^ 50` bits the estimate is within one tenth of a digit of the product. -/
private theorem abs_value_sub_le (hbits : 0 < bits) (hlt : bits < 2 ^ 50) :
    |(estimate bits).value - product bits| ≤ 1 / 10 := by
  obtain ⟨-, -, herror, -⟩ := value_estimate hbits (hlt.trans (by norm_num))
  have hbitsQ : (bits : ℚ) < 2 ^ 50 := by exact_mod_cast hlt
  have hhigh := (product_bounds bits).2
  calc |(estimate bits).value - product bits| ≤ product bits / 2 ^ 53 := herror
    _ ≤ 2 ^ 49 / 2 ^ 53 := by gcongr; linarith
    _ ≤ 1 / 10 := by norm_num

/-- Fewer digits than the integer part of the estimate stay below the bits. -/
theorem ten_pow_lt_of_lt_floor {t : ℕ} (hlt : bits < 2 ^ 50) (h : t < floor bits) :
    10 ^ t < 2 ^ bits := by
  rcases Nat.eq_zero_or_pos bits with rfl | hbits
  · rw [floor_zero] at h
    exact absurd h (Nat.not_lt_zero t)
  · have hfloor := (value_estimate hbits (hlt.trans (by norm_num))).1
    have hclose := (abs_le.mp (abs_value_sub_le hbits hlt)).2
    have hle : ((floor bits : ℤ) : ℚ) ≤ (estimate bits).value := hfloor ▸ Int.floor_le _
    have hsucc : ((t + 1 : ℕ) : ℚ) ≤ floor bits := by exact_mod_cast h
    have hproduct : (t : ℚ) + 9 / 10 ≤ product bits := by
      push_cast at hle hsucc
      linarith
    rw [product, le_div_iff₀ (by norm_num)] at hproduct
    have hnat : (10 * t + 9) * 2 ^ 54 ≤ 10 * (bits * log10Of2) := by
      have : ((10 * t + 9 : ℕ) : ℚ) * 2 ^ 54 ≤ 10 * (bits * log10Of2) := by
        push_cast
        linarith
      exact_mod_cast this
    refine ten_pow_lt_two_pow ?_
    rw [Nat.mul_sub, mul_one, pow2_eq]
    omega

/-- More digits than the ceiling of the estimate exceed the bits. -/
theorem two_pow_lt_of_ceil_lt {t : ℕ} (hbits : 0 < bits) (hlt : bits < 2 ^ 50)
    (h : ceil bits < t) : 2 ^ bits < 10 ^ t := by
  have hceil := (value_estimate hbits (hlt.trans (by norm_num))).2.1
  have hclose := (abs_le.mp (abs_value_sub_le hbits hlt)).1
  have hle : (estimate bits).value ≤ ((ceil bits : ℤ) : ℚ) := hceil ▸ Int.le_ceil _
  have hsucc : ((ceil bits + 1 : ℕ) : ℚ) ≤ t := by exact_mod_cast h
  have hproduct : product bits < t := by
    push_cast at hle hsucc
    linarith
  rw [product, div_lt_iff₀ (by norm_num)] at hproduct
  refine two_pow_lt_ten_pow ?_
  rw [pow2_eq]
  exact_mod_cast hproduct

/-- The ceiling counts at least one digit for eight bits. -/
theorem le_eight_mul_ceil (hbits : 0 < bits) (hlt : bits < 2 ^ 53) : bits ≤ 8 * ceil bits := by
  obtain ⟨-, hceil, herror, -⟩ := value_estimate hbits hlt
  have hlow := (product_bounds bits).1
  have hbitsQ : (0 : ℚ) < bits := by exact_mod_cast hbits
  have hhalf : product bits / 2 ^ 53 ≤ product bits / 2 := by
    gcongr
    · linarith
    · norm_num
  have hle : (estimate bits).value ≤ ((ceil bits : ℤ) : ℚ) := hceil ▸ Int.le_ceil _
  have hclose := (abs_le.mp herror).1
  have hcast : (bits : ℚ) ≤ 8 * ceil bits := by
    push_cast at hle
    linarith
  exact_mod_cast hcast

/-- The two integer parts of the estimate are equal or neighbours. -/
private theorem ceil_le_floor_add_one (hbits : 0 < bits) (hlt : bits < 2 ^ 53) :
    ceil bits ≤ floor bits + 1 := by
  obtain ⟨hfloor, hceil, -⟩ := value_estimate hbits hlt
  have hle := Int.ceil_le_floor_add_one (estimate bits).value
  omega

/-- Two more digits than the integer part of the estimate exceed the bits. -/
theorem two_pow_lt_of_floor_lt {t : ℕ} (hlt : bits < 2 ^ 50) (h : floor bits + 1 < t) :
    2 ^ bits < 10 ^ t := by
  rcases Nat.eq_zero_or_pos bits with rfl | hbits
  · exact Nat.one_lt_pow (by omega) (by norm_num)
  · have hceil := ceil_le_floor_add_one hbits (hlt.trans (by norm_num))
    exact two_pow_lt_of_ceil_lt hbits hlt (by omega)

/-- Two fewer digits than the ceiling of the estimate stay below the bits. -/
theorem ten_pow_lt_of_lt_ceil {t : ℕ} (hbits : 0 < bits) (hlt : bits < 2 ^ 50)
    (h : t + 1 < ceil bits) : 10 ^ t < 2 ^ bits := by
  have hceil := ceil_le_floor_add_one hbits (hlt.trans (by norm_num))
  exact ten_pow_lt_of_lt_floor hlt (by omega)

/-- **The digits reached.** The integer part of the estimate reaches `k` exactly when the
product is at least half a spacing of the doubles below `k`. -/
theorem le_floor_iff {k : ℕ} (hbits : 4 ≤ bits) (hlt : bits < 2 ^ 50) (hk1 : 1 ≤ k)
    (hk : k ≤ 2 ^ 52) :
    k ≤ floor bits ↔ k * 2 ^ 54 ≤ bits * log10Of2 + 2 ^ ((k - 1).log2 + 1) := by
  obtain ⟨hfloor, -, -, hreach⟩ :=
    value_estimate (show 0 < bits by omega) (hlt.trans (by norm_num))
  have hfloor_iff : k ≤ floor bits ↔ (k : ℚ) ≤ (estimate bits).value := by
    rw [← Int.ofNat_le, hfloor, Int.le_floor, Int.cast_natCast]
  have hlog : 2 ^ 54 < 4 * log10Of2 := by decide
  rw [hfloor_iff]
  rcases hk1.lt_or_eq with hk2 | rfl
  · have hgap : (2 : ℚ) ^ (((k - 1).log2 : ℤ) - 53) * 2 ^ 54 = 2 ^ ((k - 1).log2 + 1) := by
      rw [← zpow_natCast, ← zpow_natCast, ← zpow_add₀ (by norm_num)]
      congr 1
      push_cast
      omega
    rw [hreach k hk2 hk, product, le_div_iff₀ (by norm_num), sub_mul, hgap, sub_le_iff_le_add]
    exact_mod_cast Iff.rfl
  · -- four bits are worth more than one digit
    have hbitsQ : (4 : ℚ) ≤ bits := by exact_mod_cast hbits
    have hlogQ : (2 : ℚ) ^ 54 * (11 / 10) ≤ 4 * log10Of2 := by norm_num [log10Of2]
    have hproduct : 11 / 10 ≤ product bits := by
      rw [product, le_div_iff₀ (by norm_num)]
      nlinarith
    have hclose := (abs_le.mp (abs_value_sub_le (show 0 < bits by omega) hlt)).1
    refine iff_of_true (by push_cast; linarith) ?_
    have hmul := Nat.mul_le_mul_right log10Of2 hbits
    exact le_add_right (by omega)

end DigitCount

end ColumnCast
