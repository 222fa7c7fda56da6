import ColumnCast.Float.Format
import Mathlib.Algebra.Order.Ring.Nat
import Mathlib.Tactic.GCongr
import Mathlib.Tactic.Positivity
import Mathlib.Tactic.Ring

/-!
# The common logarithm of two

`DigitCount.log10Of2` is the common logarithm of two in units of `2 ^ (-54)`, rounded up: the
logarithm lies between `log10Of2 - 1` and `log10Of2` of them
(`two_pow_lt_ten_pow_log10Of2`, `ten_pow_lt_two_pow_log10Of2`). Powers of two and of ten are
compared through this bracket (`two_pow_lt_ten_pow`, `ten_pow_lt_two_pow`), and nearer
comparisons through `TenPower.approx`, which carries a mantissa of 128 bits through
square-and-multiply and never builds the power itself.
-/

namespace ColumnCast

/-! ### Powers of ten with a short mantissa -/

namespace TenPower

/-- An approximation `m * 2 ^ e` of `10 ^ n`, for `n` of at most `k` bits. Each step squares and
keeps the leading bits of the mantissa, rounding it down for a lower bound or up for an upper
bound. -/
def approx (up : Bool) : ℕ → ℕ → ℕ × ℕ
  | 0, _ => (1, 0)
  | k + 1, n =>
    let previous := approx up k (n / 2)
    let mantissa := previous.1 ^ 2 * 10 ^ (n % 2)
    let shift := mantissa.log2 - 127
    ((mantissa + if up then 2 ^ shift - 1 else 0) / 2 ^ shift, 2 * previous.2 + shift)

/-- The exponent of a power of ten, halved. -/
private theorem ten_pow_eq (n : ℕ) : 10 ^ n = (10 ^ (n / 2)) ^ 2 * 10 ^ (n % 2) := by
  rw [← pow_mul, ← pow_add]
  congr 1
  omega

private theorem approx_false_le {k n : ℕ} (hn : n < 2 ^ k) :
    (approx false k n).1 * 2 ^ (approx false k n).2 ≤ 10 ^ n := by
  induction k generalizing n with
  | zero =>
    obtain rfl : n = 0 := by omega
    simp [approx]
  | succ k ih =>
    have hprev := ih (n := n / 2) (by rw [pow_succ] at hn; omega)
    rw [approx]
    dsimp only
    generalize approx false k (n / 2) = previous at hprev
    set mantissa := previous.1 ^ 2 * 10 ^ (n % 2)
    rw [if_neg (by simp), add_zero]
    calc mantissa / 2 ^ (mantissa.log2 - 127) * 2 ^ (2 * previous.2 + (mantissa.log2 - 127))
        = mantissa / 2 ^ (mantissa.log2 - 127) * 2 ^ (mantissa.log2 - 127)
            * 2 ^ (2 * previous.2) := by ring
      _ ≤ mantissa * 2 ^ (2 * previous.2) := by
          gcongr
          exact Nat.div_mul_le_self _ _
      _ = (previous.1 * 2 ^ previous.2) ^ 2 * 10 ^ (n % 2) := by ring
      _ ≤ (10 ^ (n / 2)) ^ 2 * 10 ^ (n % 2) := by gcongr
      _ = 10 ^ n := (ten_pow_eq n).symm

private theorem le_approx_true {k n : ℕ} (hn : n < 2 ^ k) :
    10 ^ n ≤ (approx true k n).1 * 2 ^ (approx true k n).2 := by
  induction k generalizing n with
  | zero =>
    obtain rfl : n = 0 := by omega
    simp [approx]
  | succ k ih =>
    have hprev := ih (n := n / 2) (by rw [pow_succ] at hn; omega)
    rw [approx]
    dsimp only
    generalize approx true k (n / 2) = previous at hprev
    set mantissa := previous.1 ^ 2 * 10 ^ (n % 2)
    have hpos := Nat.two_pow_pos (mantissa.log2 - 127)
    set unit := 2 ^ (mantissa.log2 - 127) with hunit
    have hceil : mantissa ≤ (mantissa + (unit - 1)) / unit * unit := by
      have hdiv := Nat.div_add_mod (mantissa + (unit - 1)) unit
      have hmod := Nat.mod_lt (mantissa + (unit - 1)) hpos
      rw [mul_comm]
      omega
    rw [if_pos rfl]
    calc 10 ^ n = (10 ^ (n / 2)) ^ 2 * 10 ^ (n % 2) := ten_pow_eq n
      _ ≤ (previous.1 * 2 ^ previous.2) ^ 2 * 10 ^ (n % 2) := by gcongr
      _ = mantissa * 2 ^ (2 * previous.2) := by ring
      _ ≤ (mantissa + (unit - 1)) / unit * unit * 2 ^ (2 * previous.2) := by gcongr
      _ = (mantissa + (unit - 1)) / unit * 2 ^ (2 * previous.2 + (mantissa.log2 - 127)) := by
          rw [hunit]
          ring

/-- A power of two below the lower bound is below the power of ten. -/
theorem two_pow_lt_of_approx {k n a b : ℕ} (hn : n < 2 ^ k) (ha : 2 ^ a < (approx false k n).1)
    (hb : b ≤ a + (approx false k n).2) : 2 ^ b < 10 ^ n :=
  calc 2 ^ b ≤ 2 ^ (a + (approx false k n).2) := Nat.pow_le_pow_right (by norm_num) hb
    _ = 2 ^ a * 2 ^ (approx false k n).2 := pow_add _ _ _
    _ < (approx false k n).1 * 2 ^ (approx false k n).2 := by gcongr
    _ ≤ 10 ^ n := approx_false_le hn

/-- A power of two above the upper bound is above the power of ten. -/
private theorem lt_two_pow_of_approx {k n a b : ℕ} (hn : n < 2 ^ k)
    (ha : (approx true k n).1 < 2 ^ a) (hb : a + (approx true k n).2 ≤ b) : 10 ^ n < 2 ^ b :=
  calc 10 ^ n ≤ (approx true k n).1 * 2 ^ (approx true k n).2 := le_approx_true hn
    _ < 2 ^ a * 2 ^ (approx true k n).2 := by gcongr
    _ = 2 ^ (a + (approx true k n).2) := (pow_add _ _ _).symm
    _ ≤ 2 ^ b := Nat.pow_le_pow_right (by norm_num) hb

end TenPower

/-! ### The bracket of the logarithm -/

namespace DigitCount

/-- The logarithm of two is below `log10Of2 * 2 ^ (-54)`. -/
theorem two_pow_lt_ten_pow_log10Of2 : 2 ^ pow2 54 < 10 ^ log10Of2 :=
  TenPower.two_pow_lt_of_approx (k := 54) (a := 127) (by decide +kernel) (by decide +kernel)
    (by decide +kernel)

/-- The logarithm of two is above `(log10Of2 - 1) * 2 ^ (-54)`. -/
theorem ten_pow_lt_two_pow_log10Of2 : 10 ^ (log10Of2 - 1) < 2 ^ pow2 54 :=
  TenPower.lt_two_pow_of_approx (k := 54) (a := 128) (by decide +kernel) (by decide +kernel)
    (by decide +kernel)

/-- An upper bound on the logarithm compares powers from above. -/
private theorem two_pow_lt_of_bracket {N M b t : ℕ} (hbracket : 2 ^ N ≤ 10 ^ M)
    (h : b * M < t * N) : 2 ^ b < 10 ^ t := by
  by_contra hle
  have hpow : 10 ^ (t * N) ≤ 10 ^ (b * M) :=
    calc 10 ^ (t * N) = (10 ^ t) ^ N := pow_mul _ _ _
      _ ≤ (2 ^ b) ^ N := Nat.pow_le_pow_left (not_lt.mp hle) N
      _ = (2 ^ N) ^ b := pow_right_comm _ _ _
      _ ≤ (10 ^ M) ^ b := Nat.pow_le_pow_left hbracket b
      _ = 10 ^ (b * M) := by rw [← pow_mul, mul_comm]
  exact absurd ((Nat.pow_le_pow_iff_right (by norm_num)).mp hpow) (not_le.mpr h)

/-- A lower bound on the logarithm compares powers from below. -/
private theorem ten_pow_lt_of_bracket {N M b t : ℕ} (hbracket : 10 ^ M ≤ 2 ^ N)
    (h : t * N < b * M) : 10 ^ t < 2 ^ b := by
  by_contra hle
  have hpow : 10 ^ (b * M) ≤ 10 ^ (t * N) :=
    calc 10 ^ (b * M) = (10 ^ M) ^ b := by rw [← pow_mul, mul_comm]
      _ ≤ (2 ^ N) ^ b := Nat.pow_le_pow_left hbracket b
      _ = (2 ^ b) ^ N := pow_right_comm _ _ _
      _ ≤ (10 ^ t) ^ N := Nat.pow_le_pow_left (not_lt.mp hle) N
      _ = 10 ^ (t * N) := (pow_mul _ _ _).symm
  exact absurd ((Nat.pow_le_pow_iff_right (by norm_num)).mp hpow) (not_le.mpr h)

/-- `t` digits exceed `b` bits when they exceed the product with `log10Of2`. -/
theorem two_pow_lt_ten_pow {b t : ℕ} (h : b * log10Of2 < t * pow2 54) : 2 ^ b < 10 ^ t :=
  two_pow_lt_of_bracket two_pow_lt_ten_pow_log10Of2.le h

/-- `t` digits stay below `b` bits when they stay below the product with `log10Of2 - 1`. -/
theorem ten_pow_lt_two_pow {b t : ℕ} (h : t * pow2 54 < b * (log10Of2 - 1)) :
    10 ^ t < 2 ^ b :=
  ten_pow_lt_of_bracket ten_pow_lt_two_pow_log10Of2.le h

end DigitCount

end ColumnCast
