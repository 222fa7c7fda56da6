import ColumnCast.Bytes
import Mathlib.Algebra.Order.Ring.Int
import Mathlib.Data.Int.ModEq
import Mathlib.Tactic.Linarith
import Mathlib.Tactic.Positivity
import Mathlib.Tactic.Ring

/-!
# Byte sequences and the numbers they stand for

On `k` bytes, `Bytes.littleEndian` and `Bytes.ofNat` are inverse between byte sequences and the
numbers below `256 ^ k`, and `Bytes.signed` and `Bytes.pattern` between these numbers and the
integers of the half-open interval from `-256 ^ k / 2` to `256 ^ k / 2`.
-/

namespace ColumnCast

theorem pow256_eq (k : ℕ) : pow256 k = 256 ^ k :=
  rfl

namespace Bytes

/-! ### Unsigned numbers -/

@[simp]
theorem length_ofNat (k n : ℕ) : (ofNat k n).length = k := by
  induction k generalizing n with
  | zero => rfl
  | succ k ih => rw [ofNat, List.length_cons, ih]

theorem littleEndian_lt (bytes : Bytes) : littleEndian bytes < pow256 bytes.length := by
  rw [pow256_eq]
  induction bytes with
  | nil => simp [littleEndian]
  | cons b rest ih =>
    have hb : b.toNat < 256 := b.toNat_lt
    rw [littleEndian, List.length_cons, pow_succ]
    omega

private theorem littleEndian_append (bytes other : Bytes) :
    littleEndian (bytes ++ other) =
      littleEndian bytes + pow256 bytes.length * littleEndian other := by
  simp only [pow256_eq]
  induction bytes with
  | nil => simp [littleEndian]
  | cons b rest ih =>
    rw [List.cons_append, littleEndian, littleEndian, ih, List.length_cons, pow_succ]
    ring

/-- The first of the bytes that are read from the end counts most. -/
theorem littleEndian_reverse_cons (b : UInt8) (bytes : Bytes) :
    littleEndian (b :: bytes).reverse =
      littleEndian bytes.reverse + pow256 bytes.length * b.toNat := by
  rw [List.reverse_cons, littleEndian_append, List.length_reverse, littleEndian, littleEndian,
    mul_zero, add_zero]

/-- The bytes of a number give the number back, up to what `k` bytes cannot hold. -/
theorem littleEndian_ofNat (k n : ℕ) : littleEndian (ofNat k n) = n % pow256 k := by
  rw [pow256_eq]
  induction k generalizing n with
  | zero => simp [ofNat, littleEndian, Nat.mod_one]
  | succ k ih =>
    have hbyte : (UInt8.ofNat (n % 256)).toNat = n % 256 :=
      UInt8.toNat_ofNat_of_lt' (Nat.mod_lt _ (by decide))
    rw [ofNat, littleEndian, ih, hbyte, pow_succ', Nat.mod_mul]

/-- The number of a byte sequence gives the sequence back. -/
theorem ofNat_littleEndian (bytes : Bytes) : ofNat bytes.length (littleEndian bytes) = bytes := by
  induction bytes with
  | nil => rfl
  | cons b rest ih =>
    have hb : b.toNat < 256 := b.toNat_lt
    have hmod : (b.toNat + 256 * littleEndian rest) % 256 = b.toNat := by omega
    have hdiv : (b.toNat + 256 * littleEndian rest) / 256 = littleEndian rest := by omega
    rw [List.length_cons, littleEndian, ofNat, hmod, hdiv, ih, UInt8.ofNat_toNat]

/-! ### Signed numbers -/

variable {k n : ℕ} {v : ℤ}

private theorem pow256_pos (k : ℕ) : 0 < pow256 k :=
  Nat.pow_pos (by decide)

/-- The value of a pattern is in the signed range of its width. -/
theorem signed_bounds (hn : n < pow256 k) :
    -(pow256 k : ℤ) ≤ 2 * signed k n ∧ 2 * signed k n < pow256 k := by
  unfold signed
  split_ifs <;> omega

/-- A value in the signed range is read back from its pattern. -/
theorem signed_pattern (hlow : -(pow256 k : ℤ) ≤ 2 * v) (hhigh : 2 * v < pow256 k) :
    signed k (pattern k v) = v := by
  have hpos := pow256_pos k
  unfold pattern signed
  generalize pow256 k = m at *
  rcases le_or_gt 0 v with hv | hv
  · rw [Int.emod_eq_of_lt hv (by omega), if_pos (by omega), Int.toNat_of_nonneg hv]
  · have hmod : v % (m : ℤ) = v + m := by
      rw [← Int.add_emod_right, Int.emod_eq_of_lt (by omega) (by omega)]
    rw [hmod, if_neg (by omega), Int.toNat_of_nonneg (by omega), add_sub_cancel_right]

/-- A pattern is the one of its value. -/
theorem pattern_signed (hn : n < pow256 k) : pattern k (signed k n) = n := by
  unfold pattern signed
  generalize pow256 k = m at *
  split_ifs with h
  · rw [Int.emod_eq_of_lt (by omega) (by omega), Int.toNat_natCast]
  · rw [← Int.add_emod_right, sub_add_cancel, Int.emod_eq_of_lt (by omega) (by omega),
      Int.toNat_natCast]

theorem pattern_lt (k : ℕ) (v : ℤ) : pattern k v < pow256 k := by
  have hpos := pow256_pos k
  have hmod := Int.emod_lt_of_pos v (by omega : (0 : ℤ) < pow256 k)
  have hnonneg := Int.emod_nonneg v (by omega : (pow256 k : ℤ) ≠ 0)
  unfold pattern
  omega

/-- At one length, bytes of one value are the same bytes. -/
theorem signed_littleEndian_inj {bytes other : Bytes} (hlength : bytes.length = k)
    (hlength' : other.length = k)
    (h : signed k (littleEndian bytes) = signed k (littleEndian other)) : bytes = other := by
  have hlt := littleEndian_lt bytes
  have hlt' := littleEndian_lt other
  rw [hlength] at hlt
  rw [hlength'] at hlt'
  have hnat : littleEndian bytes = littleEndian other := by
    rw [← pattern_signed hlt, h, pattern_signed hlt']
  rw [← ofNat_littleEndian bytes, ← ofNat_littleEndian other, hlength, hlength', hnat]

end Bytes

end ColumnCast
