import ColumnCast.Proofs.Float.Pattern
import Mathlib.Algebra.Order.Floor.Semifield
import Mathlib.Data.Int.Log
import Mathlib.Data.Rat.Floor
import Mathlib.Tactic.FieldSimp

/-!
# Rounding to a binary format

What `FloatFormat.ofRatio` makes of a fraction `x = num / den`, as statements about fractions.
The format's numbers around `x` are the multiples of `2 ^ f.quantum num den`, and the result is
the multiple by `f.steps num den`, the nearest integer to `x / 2 ^ f.quantum num den` with ties
going to the even one (`decode_ofRatio`). Hence the relative error is at most `2 ^ (-53)` for
doubles, and an integer is exceeded exactly when `x` reaches the midpoint below it.
-/

namespace ColumnCast

/-! ### The nearest integer -/

section NearestEven

variable {num den : ℕ}

/-- `nearestEven` is within one half of the fraction. -/
private theorem nearestEven_bounds (num : ℕ) (hden : 0 < den) :
    2 * num ≤ (2 * nearestEven num den + 1) * den ∧
      2 * nearestEven num den * den ≤ 2 * num + den := by
  have hdiv := Nat.div_add_mod num den
  have hmod := Nat.mod_lt num hden
  unfold nearestEven
  dsimp only
  generalize num / den = q at *
  generalize num % den = r at *
  subst hdiv
  split_ifs with h1 h2
  · constructor <;> nlinarith
  · constructor <;> nlinarith
  · have htie : den = 2 * r := by omega
    have hparity : q % 2 ≤ 1 := by omega
    generalize q % 2 = parity at hparity
    subst htie
    constructor <;> nlinarith

/-- An even integer is reached by `nearestEven` as soon as the fraction reaches the midpoint
below it, the midpoint included. -/
private theorem le_nearestEven_iff (hden : 0 < den) {k : ℕ} (hk : Even k) :
    k ≤ nearestEven num den ↔ 2 * k * den ≤ 2 * num + den := by
  constructor
  · intro h
    have hle : 2 * k * den ≤ 2 * nearestEven num den * den := by gcongr
    exact hle.trans (nearestEven_bounds num hden).2
  · intro h
    have hdiv := Nat.div_add_mod num den
    have hmod := Nat.mod_lt num hden
    unfold nearestEven
    dsimp only
    generalize num / den = q at *
    generalize num % den = r at *
    subst hdiv
    -- the fraction is below `q + 1`, so `k` is at most `q + 1`
    have hlt : k < q + 2 := by
      by_contra hge
      have : (q + 2) * den ≤ k * den := Nat.mul_le_mul_right _ (by omega)
      nlinarith
    split_ifs with h1 h2
    · by_contra hge
      have : (q + 1) * den ≤ k * den := Nat.mul_le_mul_right _ (by omega)
      nlinarith
    · omega
    · obtain ⟨j, rfl⟩ := hk
      omega

/-- A fraction that is an integer is kept. -/
theorem nearestEven_mul_self (hden : 0 < den) (k : ℕ) : nearestEven (k * den) den = k := by
  simp [nearestEven, hden.ne', hden]

/-- `nearestEven_bounds` as a distance. -/
theorem abs_nearestEven_sub_le (hden : 0 < den) :
    |(nearestEven num den : ℚ) - num / den| ≤ 1 / 2 := by
  obtain ⟨hlow, hhigh⟩ := nearestEven_bounds num hden
  have hd : (0 : ℚ) < den := by exact_mod_cast hden
  have hlow' : (2 : ℚ) * num ≤ (2 * nearestEven num den + 1) * den := by exact_mod_cast hlow
  have hhigh' : (2 : ℚ) * nearestEven num den * den ≤ 2 * num + den := by exact_mod_cast hhigh
  rw [abs_le]
  constructor
  · rw [neg_le_sub_iff_le_add, div_le_iff₀ hd]
    linarith
  · rw [sub_le_iff_le_add, ← sub_le_iff_le_add', le_div_iff₀ hd]
    linarith

end NearestEven

/-! ### Powers of two with integer exponents -/

/-- An integer power of two as a quotient of two natural ones. -/
private theorem two_zpow_eq_div (q : ℤ) : (2 : ℚ) ^ q = 2 ^ q.toNat / 2 ^ (-q).toNat := by
  rcases le_total 0 q with h | h
  · obtain ⟨n, rfl⟩ := Int.eq_ofNat_of_zero_le h
    simp
  · obtain ⟨n, hn⟩ := Int.eq_ofNat_of_zero_le (neg_nonneg.mpr h)
    obtain rfl : q = -(n : ℤ) := by omega
    simp

/-- `binaryRatio` is the number it is taken of. -/
theorem binaryRatio_div (significand : ℕ) (exponent : ℤ) :
    ((binaryRatio significand exponent).1 : ℚ) / (binaryRatio significand exponent).2
      = significand * 2 ^ exponent := by
  rw [two_zpow_eq_div]
  simp only [binaryRatio, pow2_eq]
  push_cast
  ring

theorem binaryRatio_den_pos (significand : ℕ) (exponent : ℤ) :
    0 < (binaryRatio significand exponent).2 :=
  Nat.two_pow_pos _

/-- `floorLog2` is the exponent of the greatest power of two up to the fraction. -/
theorem floorLog2_eq {num den : ℕ} (hnum : 0 < num) (hden : 0 < den) :
    floorLog2 num den = Int.log 2 ((num : ℚ) / den) := by
  have hd : (0 : ℚ) < den := by exact_mod_cast hden
  have hx : (0 : ℚ) < (num : ℚ) / den := by positivity
  have hn1 : (2 : ℚ) ^ num.log2 ≤ num := by exact_mod_cast Nat.log2_self_le hnum.ne'
  have hn2 : (num : ℚ) < 2 ^ (num.log2 + 1) := by exact_mod_cast Nat.lt_log2_self
  have hd1 : (2 : ℚ) ^ den.log2 ≤ den := by exact_mod_cast Nat.log2_self_le hden.ne'
  have hd2 : (den : ℚ) < 2 ^ (den.log2 + 1) := by exact_mod_cast Nat.lt_log2_self
  set k : ℤ := (num.log2 : ℤ) - den.log2 with hk
  have hlow : (2 : ℚ) ^ (k - 1) ≤ (num : ℚ) / den := by
    rw [le_div_iff₀ hd]
    calc (2 : ℚ) ^ (k - 1) * den ≤ 2 ^ (k - 1) * 2 ^ (den.log2 + 1) := by gcongr
      _ = 2 ^ num.log2 := by
          rw [← zpow_natCast, ← zpow_natCast, ← zpow_add₀ (by norm_num)]
          congr 1
          push_cast
          omega
      _ ≤ num := hn1
  have hhigh : (num : ℚ) / den < 2 ^ (k + 1) := by
    rw [div_lt_iff₀ hd]
    calc (num : ℚ) < 2 ^ (num.log2 + 1) := hn2
      _ = 2 ^ (k + 1) * 2 ^ den.log2 := by
          rw [← zpow_natCast, ← zpow_natCast, ← zpow_add₀ (by norm_num)]
          congr 1
          push_cast
          omega
      _ ≤ 2 ^ (k + 1) * den := by gcongr
  -- the test of the definition is the comparison with `2 ^ k`
  have htest : den * pow2 k.toNat ≤ num * pow2 (-k).toNat ↔ (2 : ℚ) ^ k ≤ (num : ℚ) / den := by
    rw [two_zpow_eq_div, div_le_div_iff₀ (by positivity) hd, pow2_eq, pow2_eq,
      mul_comm den]
    exact_mod_cast Iff.rfl
  have hlog : ∀ t : ℤ, (2 : ℚ) ^ t ≤ (num : ℚ) / den → (num : ℚ) / den < 2 ^ (t + 1) →
      t = Int.log 2 ((num : ℚ) / den) := by
    intro t h1 h2
    have h1' := (Int.zpow_le_iff_le_log (b := 2) (by norm_num) hx).mp (by exact_mod_cast h1)
    have h2' := (Int.lt_zpow_iff_log_lt (b := 2) (by norm_num) hx).mp (by exact_mod_cast h2)
    omega
  unfold floorLog2
  simp only [← hk]
  split_ifs with h
  · exact hlog k (htest.mp h) hhigh
  · refine hlog (k - 1) hlow ?_
    rw [sub_add_cancel]
    exact not_le.mp fun hle => h (htest.mpr hle)

private theorem two_zpow_floorLog2_le {num den : ℕ} (hnum : 0 < num) (hden : 0 < den) :
    (2 : ℚ) ^ floorLog2 num den ≤ (num : ℚ) / den := by
  have hpos : (0 : ℚ) < (num : ℚ) / den := by positivity
  rw [floorLog2_eq hnum hden]
  exact_mod_cast Int.zpow_log_le_self (b := 2) (by norm_num) hpos

private theorem lt_two_zpow_floorLog2 {num den : ℕ} (hnum : 0 < num) (hden : 0 < den) :
    (num : ℚ) / den < 2 ^ (floorLog2 num den + 1) := by
  rw [floorLog2_eq hnum hden]
  exact_mod_cast Int.lt_zpow_succ_log_self (b := 2) (by norm_num) ((num : ℚ) / den)

/-! ### Decoding a rounded fraction -/

namespace FloatFormat

variable {f : FloatFormat} {num den : ℕ}

/-- How many times the quantum the rounded fraction is. -/
def steps (f : FloatFormat) (num den : ℕ) : ℕ :=
  nearestEven (num * pow2 (-f.quantum num den).toNat) (den * pow2 (f.quantum num den).toNat)

private theorem minExponent_le_quantum (f : FloatFormat) (num den : ℕ) :
    f.minExponent ≤ f.quantum num den :=
  le_max_left _ _

/-- The fraction that `steps` rounds is the given one in units of the quantum. -/
theorem scaled_div (f : FloatFormat) (num den : ℕ) :
    ((num * pow2 (-f.quantum num den).toNat : ℕ) : ℚ)
        / (den * pow2 (f.quantum num den).toNat : ℕ)
      = (num : ℚ) / den / 2 ^ f.quantum num den := by
  rw [two_zpow_eq_div, pow2_eq, pow2_eq]
  push_cast
  field_simp

theorem scaled_den_pos (hden : 0 < den) (q : ℤ) : 0 < den * pow2 q.toNat :=
  Nat.mul_pos hden (Nat.two_pow_pos _)

/-- `steps` is within one half of the fraction in units of the quantum. -/
theorem abs_steps_sub_le (f : FloatFormat) (num : ℕ) (hden : 0 < den) :
    |(f.steps num den : ℚ) - (num : ℚ) / den / 2 ^ f.quantum num den| ≤ 1 / 2 := by
  rw [← scaled_div]
  exact abs_nearestEven_sub_le (scaled_den_pos hden _)

/-- An even number of quanta is reached from the midpoint below it on. -/
private theorem le_steps_iff (f : FloatFormat) (hden : 0 < den) {k : ℕ} (hk : Even k) :
    k ≤ f.steps num den ↔ (k : ℚ) - 1 / 2 ≤ (num : ℚ) / den / 2 ^ f.quantum num den := by
  have hpos := scaled_den_pos hden (f.quantum num den)
  have hposQ : (0 : ℚ) < (den * pow2 (f.quantum num den).toNat : ℕ) := by exact_mod_cast hpos
  rw [← scaled_div, le_div_iff₀ hposQ, steps, le_nearestEven_iff hpos hk,
    ← Nat.cast_le (α := ℚ)]
  generalize den * pow2 (f.quantum num den).toNat = d
  generalize num * pow2 (-f.quantum num den).toNat = n
  push_cast
  constructor <;> intro h <;> linarith

/-- The fraction is below the power of two that the significands end at. -/
private theorem scaled_lt (f : FloatFormat) (hnum : 0 < num) (hden : 0 < den) :
    (num : ℚ) / den / 2 ^ f.quantum num den < 2 ^ (f.fractionBits + 1) := by
  have hq : floorLog2 num den - f.fractionBits ≤ f.quantum num den := le_max_right _ _
  rw [div_lt_iff₀ (by positivity)]
  calc (num : ℚ) / den < 2 ^ (floorLog2 num den + 1) := lt_two_zpow_floorLog2 hnum hden
    _ ≤ 2 ^ (((f.fractionBits + 1 : ℕ) : ℤ) + f.quantum num den) := by
        refine zpow_le_zpow_right₀ (by norm_num) ?_
        push_cast
        omega
    _ = 2 ^ (f.fractionBits + 1) * 2 ^ f.quantum num den := by
        rw [zpow_add₀ (by norm_num), zpow_natCast]

/-- Above the least quantum the fraction has a full significand. -/
theorem le_scaled (hnum : 0 < num) (hden : 0 < den)
    (hq : f.quantum num den = floorLog2 num den - f.fractionBits) :
    2 ^ f.fractionBits ≤ (num : ℚ) / den / 2 ^ f.quantum num den := by
  rw [le_div_iff₀ (by positivity), hq]
  calc (2 : ℚ) ^ f.fractionBits * 2 ^ (floorLog2 num den - f.fractionBits)
      = 2 ^ floorLog2 num den := by
        rw [← zpow_natCast, ← zpow_add₀ (by norm_num)]
        congr 1
        omega
    _ ≤ (num : ℚ) / den := two_zpow_floorLog2_le hnum hden

private theorem steps_le (f : FloatFormat) (hnum : 0 < num) (hden : 0 < den) :
    f.steps num den ≤ 2 ^ (f.fractionBits + 1) := by
  have hclose := (abs_le.mp (abs_steps_sub_le f num hden)).2
  have hlt := scaled_lt f hnum hden
  have hlt' : (f.steps num den : ℚ) < (2 ^ (f.fractionBits + 1) + 1 : ℕ) := by
    push_cast
    linarith
  exact Nat.le_of_lt_succ (by exact_mod_cast hlt')

private theorem le_steps (hnum : 0 < num) (hden : 0 < den)
    (hq : f.quantum num den = floorLog2 num den - f.fractionBits) :
    2 ^ f.fractionBits ≤ f.steps num den := by
  have hclose := (abs_le.mp (abs_steps_sub_le f num hden)).1
  have hle := le_scaled hnum hden hq
  have hlt : ((2 ^ f.fractionBits : ℕ) : ℚ) < (f.steps num den + 1 : ℕ) := by
    push_cast
    linarith
  exact Nat.le_of_lt_succ (by exact_mod_cast hlt)

/-! ### The pattern of a rounded fraction -/

/-- Above the least quantum a rounded fraction has its leading bit. -/
private theorem quantum_eq_or_le_steps (f : FloatFormat) (hnum : 0 < num) (hden : 0 < den) :
    f.quantum num den = f.minExponent ∨ 2 ^ f.fractionBits ≤ f.steps num den := by
  rcases le_total (floorLog2 num den - f.fractionBits) f.minExponent with h | h
  · exact Or.inl (max_eq_left h)
  · exact Or.inr (le_steps hnum hden (max_eq_right h))

/-- A number of quanta has a canonical form of the same magnitude, also when rounding has carried
into the next binade. -/
private theorem exists_canonical {n : ℕ} {q : ℤ} (hn : n ≤ 2 ^ (f.fractionBits + 1))
    (hleast : f.minExponent ≤ q) (hleading : q = f.minExponent ∨ 2 ^ f.fractionBits ≤ n)
    (hfinite : f.magnitude n q < f.infinityMagnitude) :
    ∃ significand exponent, f.Canonical significand exponent ∧
      f.magnitude significand exponent = f.magnitude n q ∧
      (significand : ℚ) * 2 ^ exponent = n * 2 ^ q ∧
      (0 < f.fractionBits → (Even significand ↔ Even n)) := by
  have hpos := Nat.two_pow_pos f.fractionBits
  rcases hn.lt_or_eq with hlt | rfl
  · exact ⟨n, q, ⟨hlt, hleast, hleading, hfinite⟩, rfl, rfl, fun _ => Iff.rfl⟩
  · have hmagnitude : f.magnitude (2 ^ f.fractionBits) (q + 1) =
        f.magnitude (2 ^ (f.fractionBits + 1)) q := by
      have hexponent : (q + 1 - f.minExponent).toNat = (q - f.minExponent).toNat + 1 := by omega
      rw [magnitude, magnitude, hexponent, pow_succ]
      ring
    refine ⟨2 ^ f.fractionBits, q + 1,
      ⟨Nat.pow_lt_pow_succ (by norm_num), by omega, Or.inr le_rfl, hmagnitude ▸ hfinite⟩,
      hmagnitude, ?_, fun hbits => ?_⟩
    · rw [zpow_add_one₀ (by norm_num)]
      push_cast
      ring
    · exact iff_of_true (even_two.pow_of_ne_zero hbits.ne') (even_two.pow_of_ne_zero (by omega))

/-- **Rounding.** Unless it reaches infinity, a fraction is decoded as `steps` times the
quantum. -/
theorem decode_ofRatio_of_lt (negative : Bool) (hnum : 0 < num) (hden : 0 < den)
    (hfinite : f.magnitude (f.steps num den) (f.quantum num den) < f.infinityMagnitude) :
    ∃ significand exponent,
      f.decode (f.ofRatio negative num den) = .finite negative significand exponent ∧
        (significand : ℚ) * 2 ^ exponent = f.steps num den * 2 ^ f.quantum num den ∧
        (0 < f.fractionBits → (Even significand ↔ Even (f.steps num den))) := by
  obtain ⟨significand, exponent, hcanonical, hmagnitude, hvalue, heven⟩ :=
    exists_canonical (steps_le f hnum hden) (f.minExponent_le_quantum num den)
      (f.quantum_eq_or_le_steps hnum hden) hfinite
  have hround : f.roundMagnitude num den = f.magnitude significand exponent := by
    rw [roundMagnitude, if_neg hnum.ne', hmagnitude]
    exact min_eq_right hfinite.le
  refine ⟨significand, exponent, ?_, hvalue, heven⟩
  rw [ofRatio, hround]
  exact decode_eq_finite_iff.mpr ⟨hcanonical, rfl⟩

/-- A fraction up to the greatest finite number does not reach infinity. -/
theorem magnitude_steps_lt (hf : 2 ≤ f.exponentBits) (hnum : 0 < num) (hden : 0 < den)
    (hrange : (num : ℚ) / den ≤ f.greatest) :
    f.magnitude (f.steps num den) (f.quantum num den) < f.infinityMagnitude := by
  have hpos := Nat.two_pow_pos f.fractionBits
  have hexponents := four_le_two_pow hf
  have hdouble : 2 ^ (f.fractionBits + 1) = 2 ^ f.fractionBits * 2 := pow_succ _ _
  have hleast := f.minExponent_le_quantum num den
  have hmax : f.maxExponent = f.minExponent + (2 ^ f.exponentBits - 3 : ℕ) := rfl
  have hle : f.quantum num den ≤ f.maxExponent := by
    have hbelow : (num : ℚ) / den < 2 ^ (((f.fractionBits + 1 : ℕ) : ℤ) + f.maxExponent) := by
      rw [zpow_add₀ (by norm_num), zpow_natCast]
      refine hrange.trans_lt ?_
      rw [greatest]
      gcongr
      exact_mod_cast (by omega : 2 ^ (f.fractionBits + 1) - 1 < 2 ^ (f.fractionBits + 1))
    rw [← Nat.cast_two, Int.lt_zpow_iff_log_lt (by norm_num) (by positivity),
      ← floorLog2_eq hnum hden] at hbelow
    exact max_le (by omega) (by omega)
  rcases hle.lt_or_eq with hlt | heq
  · -- a carry into the next binade stays below infinity
    have hsteps := steps_le f hnum hden
    have hbinades : (f.quantum num den - f.minExponent).toNat + 2 < 2 ^ f.exponentBits - 1 := by
      omega
    calc f.magnitude (f.steps num den) (f.quantum num den)
        ≤ 2 ^ (f.fractionBits + 1) +
            (f.quantum num den - f.minExponent).toNat * 2 ^ f.fractionBits :=
          Nat.add_le_add_right hsteps _
      _ = ((f.quantum num den - f.minExponent).toNat + 2) * 2 ^ f.fractionBits := by ring
      _ < (2 ^ f.exponentBits - 1) * 2 ^ f.fractionBits := by gcongr
  · -- there is no carry in the last binade
    have hsteps : f.steps num den ≤ 2 ^ (f.fractionBits + 1) - 1 := by
      have hclose := (abs_le.mp (abs_steps_sub_le f num hden)).2
      have hscaled : (num : ℚ) / den / 2 ^ f.quantum num den ≤
          (2 ^ (f.fractionBits + 1) - 1 : ℕ) := by
        rw [div_le_iff₀ (by positivity), heq]
        exact hrange
      have hlt : (f.steps num den : ℚ) < (2 ^ (f.fractionBits + 1) - 1 + 1 : ℕ) := by
        push_cast at hscaled ⊢
        linarith
      exact Nat.le_of_lt_succ (by exact_mod_cast hlt)
    rw [heq]
    exact (Nat.add_le_add_right hsteps _).trans_lt (canonical_greatest hf).finite

/-- A fraction below the greatest power of two of the format does not reach infinity. -/
theorem decode_ofRatio (hf : 2 ≤ f.exponentBits) (negative : Bool) (hnum : 0 < num)
    (hden : 0 < den) (hrange : (num : ℚ) / den < 2 ^ (2 ^ (f.exponentBits - 1) - 1)) :
    ∃ significand exponent,
      f.decode (f.ofRatio negative num den) = .finite negative significand exponent ∧
        (significand : ℚ) * 2 ^ exponent = f.steps num den * 2 ^ f.quantum num den := by
  obtain ⟨significand, exponent, hdecode, hvalue, -⟩ := decode_ofRatio_of_lt negative hnum hden
    (magnitude_steps_lt hf hnum hden (hrange.le.trans (two_pow_le_greatest hf le_rfl)))
  exact ⟨significand, exponent, hdecode, hvalue⟩

/-! ### Error and thresholds of normal numbers -/

/-- In the range of full significands the quantum is `fractionBits` below the leading bit. -/
private theorem quantum_of_normal (hnormal : f.minExponent + f.fractionBits ≤ floorLog2 num den) :
    f.quantum num den = floorLog2 num den - f.fractionBits :=
  max_eq_right (by omega)

/-- A distance in units of the quantum. -/
theorem abs_sub_mul_quantum (x k : ℚ) (q : ℤ) :
    |x - k * 2 ^ q| = |k - x / 2 ^ q| * 2 ^ q := by
  have hq : (0 : ℚ) < 2 ^ q := by positivity
  rw [← abs_of_pos hq, ← abs_mul, abs_of_pos hq, sub_mul, div_mul_cancel₀ _ hq.ne', abs_sub_comm]

/-- **Relative error.** A normal number is rounded by at most `2 ^ (-fractionBits - 1)` of
itself. -/
theorem abs_rounded_sub_le (hnum : 0 < num) (hden : 0 < den)
    (hnormal : f.minExponent + f.fractionBits ≤ floorLog2 num den) :
    |(f.steps num den : ℚ) * 2 ^ f.quantum num den - (num : ℚ) / den|
      ≤ (num : ℚ) / den / 2 ^ (f.fractionBits + 1) := by
  have hq : (0 : ℚ) < 2 ^ f.quantum num den := by positivity
  have hscaled := le_scaled hnum hden (quantum_of_normal hnormal)
  have hclose := abs_steps_sub_le f num hden
  set x : ℚ := (num : ℚ) / den
  have hquantum : 2 ^ f.quantum num den / 2 ≤ x / 2 ^ (f.fractionBits + 1) := by
    rw [le_div_iff₀ hq] at hscaled
    rw [div_le_div_iff₀ (by norm_num) (by positivity), pow_succ]
    linarith
  calc |(f.steps num den : ℚ) * 2 ^ f.quantum num den - x|
      = |(f.steps num den : ℚ) - x / 2 ^ f.quantum num den| * 2 ^ f.quantum num den := by
        rw [abs_sub_comm, abs_sub_mul_quantum]
    _ ≤ 1 / 2 * 2 ^ f.quantum num den := by gcongr
    _ = 2 ^ f.quantum num den / 2 := by ring
    _ ≤ x / 2 ^ (f.fractionBits + 1) := hquantum

/-- A normal number is not rounded below its leading bit. -/
private theorem two_zpow_le_rounded (hnum : 0 < num) (hden : 0 < den)
    (hnormal : f.minExponent + f.fractionBits ≤ floorLog2 num den) :
    (2 : ℚ) ^ floorLog2 num den ≤ f.steps num den * 2 ^ f.quantum num den := by
  have hq := quantum_of_normal hnormal
  have h : ((2 ^ f.fractionBits : ℕ) : ℚ) ≤ f.steps num den := by
    exact_mod_cast le_steps hnum hden hq
  calc (2 : ℚ) ^ floorLog2 num den
      = 2 ^ (f.fractionBits : ℤ) * 2 ^ f.quantum num den := by
        rw [hq, ← zpow_add₀ (by norm_num)]
        congr 1
        omega
    _ = (2 ^ f.fractionBits : ℕ) * 2 ^ f.quantum num den := by push_cast; rw [zpow_natCast]
    _ ≤ f.steps num den * 2 ^ f.quantum num den := by gcongr

/-- A normal number is rounded at most up to the next power of two. -/
private theorem rounded_le_two_zpow (hnum : 0 < num) (hden : 0 < den)
    (hnormal : f.minExponent + f.fractionBits ≤ floorLog2 num den) :
    (f.steps num den : ℚ) * 2 ^ f.quantum num den ≤ 2 ^ (floorLog2 num den + 1) := by
  have h : (f.steps num den : ℚ) ≤ (2 ^ (f.fractionBits + 1) : ℕ) := by
    exact_mod_cast steps_le f hnum hden
  calc (f.steps num den : ℚ) * 2 ^ f.quantum num den
      ≤ (2 ^ (f.fractionBits + 1) : ℕ) * 2 ^ f.quantum num den := by gcongr
    _ = 2 ^ ((f.fractionBits + 1 : ℕ) : ℤ) * 2 ^ f.quantum num den := by
        push_cast
        rw [← zpow_natCast]
        push_cast
        rfl
    _ = 2 ^ (floorLog2 num den + 1) := by
        rw [quantum_of_normal hnormal, ← zpow_add₀ (by norm_num)]
        congr 1
        push_cast
        omega

/-- A positive integer lies above the leading bit of its predecessor and at most at twice
that. -/
private theorem log2_pred_bounds {k : ℕ} (hk : 2 ≤ k) :
    2 ^ (k - 1).log2 + 1 ≤ k ∧ k ≤ 2 ^ ((k - 1).log2 + 1) := by
  have hlow := Nat.log2_self_le (by omega : k - 1 ≠ 0)
  have hhigh := Nat.lt_log2_self (n := k - 1)
  omega

/-- **Thresholds.** The rounded fraction reaches an integer exactly when the fraction reaches
the midpoint between the integer and the number of the format below it. -/
theorem le_rounded_iff (hnum : 0 < num) (hden : 0 < den)
    (hnormal : f.minExponent + f.fractionBits ≤ floorLog2 num den) {k : ℕ} (hk2 : 2 ≤ k)
    (hk : k ≤ 2 ^ f.fractionBits) :
    (k : ℚ) ≤ f.steps num den * 2 ^ f.quantum num den ↔
      (k : ℚ) - 2 ^ (((k - 1).log2 : ℤ) - (f.fractionBits + 1)) ≤ (num : ℚ) / den := by
  have hq := quantum_of_normal hnormal
  have hqpos : (0 : ℚ) < 2 ^ f.quantum num den := by positivity
  have hlow := two_zpow_floorLog2_le hnum hden
  have hhigh := lt_two_zpow_floorLog2 hnum hden
  have hsteps_low := two_zpow_le_rounded hnum hden hnormal
  have hsteps_high := rounded_le_two_zpow hnum hden hnormal
  obtain ⟨hL_low, hL_high⟩ := log2_pred_bounds hk2
  generalize (k - 1).log2 = L at *
  have hL_lt : L < f.fractionBits := by
    refine (Nat.pow_lt_pow_iff_right (by norm_num : 1 < 2)).mp ?_
    omega
  have hL_lowQ : (2 : ℚ) ^ (L : ℤ) + 1 ≤ k := by exact_mod_cast hL_low
  have hL_highQ : (k : ℚ) ≤ 2 ^ ((L : ℤ) + 1) := by exact_mod_cast hL_high
  have hgap_pos : (0 : ℚ) < 2 ^ ((L : ℤ) - (f.fractionBits + 1)) := by positivity
  have hgap_lt : (2 : ℚ) ^ ((L : ℤ) - (f.fractionBits + 1)) < 1 :=
    zpow_lt_one_of_neg₀ (by norm_num) (by omega)
  rcases lt_trichotomy (floorLog2 num den) (L : ℤ) with hlt | heq | hgt
  · -- the fraction ends below `2 ^ L`
    have hpow : (2 : ℚ) ^ (floorLog2 num den + 1) ≤ 2 ^ (L : ℤ) :=
      zpow_le_zpow_right₀ (by norm_num) (by omega)
    constructor <;> intro h <;> linarith
  · -- in the binade of `k` an even number of quanta makes `k`
    obtain ⟨j, hj⟩ : ∃ j, f.fractionBits = L + 1 + j := ⟨f.fractionBits - L - 1, by omega⟩
    have hqk : f.quantum num den = -((j + 1 : ℕ) : ℤ) := by
      rw [hq, heq]
      push_cast
      omega
    have hunits : (k : ℚ) = ((k * 2 ^ (j + 1) : ℕ) : ℚ) * 2 ^ f.quantum num den := by
      rw [hqk, zpow_neg, zpow_natCast]
      push_cast
      rw [mul_inv_cancel_right₀ (by positivity)]
    have heven : Even (k * 2 ^ (j + 1)) := by
      rw [pow_succ, ← mul_assoc]
      exact even_two.mul_left _
    have hgap : (2 : ℚ) ^ ((L : ℤ) - (f.fractionBits + 1)) = 1 / 2 * 2 ^ f.quantum num den := by
      rw [hq, heq, one_div, ← zpow_neg_one, ← zpow_add₀ (by norm_num)]
      congr 1
      omega
    calc (k : ℚ) ≤ f.steps num den * 2 ^ f.quantum num den
        ↔ k * 2 ^ (j + 1) ≤ f.steps num den := by
          rw [hunits, mul_le_mul_iff_left₀ hqpos, Nat.cast_le]
      _ ↔ ((k * 2 ^ (j + 1) : ℕ) : ℚ) - 1 / 2 ≤ (num : ℚ) / den / 2 ^ f.quantum num den :=
          le_steps_iff f hden heven
      _ ↔ (k : ℚ) - 2 ^ ((L : ℤ) - (f.fractionBits + 1)) ≤ (num : ℚ) / den := by
          rw [le_div_iff₀ hqpos, sub_mul, ← hunits, hgap]
  · -- the fraction has passed `2 ^ (L + 1)`
    have hpow : (2 : ℚ) ^ ((L : ℤ) + 1) ≤ 2 ^ floorLog2 num den :=
      zpow_le_zpow_right₀ (by norm_num) (by omega)
    constructor <;> intro _ <;> linarith

end FloatFormat

/-! ### The number that a pattern stands for -/

namespace Number

/-- The fraction that a finite number is; zero for all else. -/
def value : Number → ℚ
  | .finite negative significand exponent =>
    (if negative then -1 else 1) * (significand * 2 ^ exponent)
  | _ => 0

/-- The division that rounds up is the ceiling. -/
private theorem ceil_natCast_div {num den : ℕ} (hden : 0 < den) :
    ⌈(num : ℚ) / den⌉ = ((num + den - 1) / den : ℕ) := by
  have hd : (0 : ℚ) < den := by exact_mod_cast hden
  have hdiv := Nat.div_add_mod (num + den - 1) den
  have hmod := Nat.mod_lt (num + den - 1) hden
  set c := (num + den - 1) / den
  have hlow : den * c < num + den := by omega
  have hhigh : num ≤ den * c := by omega
  have hlowQ : (den : ℚ) * c < num + den := by exact_mod_cast hlow
  have hhighQ : (num : ℚ) ≤ den * c := by exact_mod_cast hhigh
  rw [Int.ceil_eq_iff, Int.cast_natCast]
  constructor
  · rw [lt_div_iff₀ hd]
    linarith
  · rw [div_le_iff₀ hd]
    linarith

theorem floor?_finite (significand : ℕ) (exponent : ℤ) (negative : Bool) :
    (finite negative significand exponent).floor?
      = some ⌊(finite negative significand exponent).value⌋ := by
  have hratio := binaryRatio_div significand exponent
  have hpos := binaryRatio_den_pos significand exponent
  simp only [floor?, value, ← hratio]
  generalize binaryRatio significand exponent = ratio at hpos
  obtain ⟨num, den⟩ := ratio
  cases negative
  · simp [← Rat.floor_intCast_div_natCast]
  · simp only [if_true, neg_one_mul, Int.floor_neg, ceil_natCast_div hpos]

theorem ceil?_finite (significand : ℕ) (exponent : ℤ) (negative : Bool) :
    (finite negative significand exponent).ceil?
      = some ⌈(finite negative significand exponent).value⌉ := by
  have hratio := binaryRatio_div significand exponent
  have hpos := binaryRatio_den_pos significand exponent
  simp only [ceil?, value, ← hratio]
  generalize binaryRatio significand exponent = ratio at hpos
  obtain ⟨num, den⟩ := ratio
  cases negative
  · simp [ceil_natCast_div hpos]
  · simp [Int.ceil_neg, ← Rat.floor_intCast_div_natCast]

end Number

end ColumnCast
