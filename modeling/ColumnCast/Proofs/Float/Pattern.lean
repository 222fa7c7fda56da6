import ColumnCast.Float.Format
import Mathlib.Algebra.Order.Field.Power
import Mathlib.Tactic.Linarith
import Mathlib.Tactic.Positivity
import Mathlib.Tactic.Ring

/-!
# Bit patterns and the numbers they stand for

A bit pattern is a sign above a magnitude. The finite numbers of a format have canonical
significands and exponents (`FloatFormat.Canonical`), and the one with significand `s` and exponent
`e` has the magnitude `s + (e - f.minExponent) * 2 ^ f.fractionBits`: this is what decoding inverts
(`FloatFormat.decode_eq_finite_iff`). A value has one canonical form, so that a sign and a value
settle a finite pattern (`FloatFormat.eq_of_decode_finite`).
-/

namespace ColumnCast

theorem pow2_eq (k : ℕ) : pow2 k = 2 ^ k :=
  rfl

namespace FloatFormat

variable {f : FloatFormat} {bits : f.Bits} {negative : Bool} {significand : ℕ} {exponent : ℤ}

/-! ### Signs and magnitudes -/

theorem infinityMagnitude_lt (f : FloatFormat) :
    f.infinityMagnitude < 2 ^ f.magnitudeBits := by
  have h1 := Nat.two_pow_pos f.exponentBits
  have h2 := Nat.two_pow_pos f.fractionBits
  rw [infinityMagnitude, magnitudeBits, pow_add, pow2_eq, pow2_eq]
  exact Nat.mul_lt_mul_of_pos_right (by omega) h2

private theorem infinityMagnitude_pos (hf : 0 < f.exponentBits) : 0 < f.infinityMagnitude := by
  have hexponents : 2 ^ 1 ≤ 2 ^ f.exponentBits := Nat.pow_le_pow_right (by norm_num) hf
  exact Nat.mul_pos (by rw [pow2_eq]; omega) (Nat.two_pow_pos f.fractionBits)

private theorem toNat_ofMagnitude (negative : Bool) {m : ℕ} (hm : m < 2 ^ f.magnitudeBits) :
    (f.ofMagnitude negative m).toNat = (if negative then 2 ^ f.magnitudeBits else 0) + m := by
  rw [ofMagnitude, BitVec.toNat_ofNat, pow2_eq]
  apply Nat.mod_eq_of_lt
  rw [pow_succ]
  cases negative <;> simp only [Bool.false_eq_true, if_true, if_false] <;> omega

private theorem msb_ofMagnitude (negative : Bool) {m : ℕ} (hm : m < 2 ^ f.magnitudeBits) :
    (f.ofMagnitude negative m).msb = negative := by
  rw [BitVec.msb_eq_decide, toNat_ofMagnitude negative hm]
  cases negative <;> simp [hm]

theorem toNat_ofMagnitude_mod (negative : Bool) {m : ℕ} (hm : m < 2 ^ f.magnitudeBits) :
    (f.ofMagnitude negative m).toNat % 2 ^ f.magnitudeBits = m := by
  rw [toNat_ofMagnitude negative hm]
  cases negative <;> simp [Nat.mod_eq_of_lt hm]

/-- A pattern is made of its sign and its magnitude. -/
private theorem ofMagnitude_msb_mod (bits : f.Bits) :
    f.ofMagnitude bits.msb (bits.toNat % 2 ^ f.magnitudeBits) = bits := by
  have hlt := bits.isLt
  have hmod := Nat.mod_lt bits.toNat (Nat.two_pow_pos f.magnitudeBits)
  have hdiv := Nat.div_add_mod bits.toNat (2 ^ f.magnitudeBits)
  apply BitVec.eq_of_toNat_eq
  rw [toNat_ofMagnitude _ hmod, BitVec.msb_eq_decide]
  rw [pow_succ] at hlt
  by_cases hsign : 2 ^ f.magnitudeBits ≤ bits.toNat
  · have hquotient : bits.toNat / 2 ^ f.magnitudeBits = 1 :=
      Nat.div_eq_of_lt_le (by omega) (by omega)
    rw [hquotient] at hdiv
    simp only [Nat.add_sub_cancel, hsign, decide_true, if_true]
    omega
  · simp only [Nat.add_sub_cancel, hsign, decide_false, Bool.false_eq_true, if_false]
    rw [Nat.mod_eq_of_lt (by omega), Nat.zero_add]

/-! ### What is not finite -/

theorem decode_infinity (negative : Bool) :
    f.decode (f.infinity negative) = .infinite negative := by
  have hlt := f.infinityMagnitude_lt
  unfold decode infinity
  simp only [pow2_eq, toNat_ofMagnitude_mod negative hlt, msb_ofMagnitude negative hlt,
    lt_irrefl, if_false, if_true]

theorem decode_notANumber (hf : 0 < f.fractionBits) : f.decode f.notANumber = .nan := by
  have hpos := Nat.two_pow_pos (f.fractionBits - 1)
  have hlt : f.infinityMagnitude + 2 ^ (f.fractionBits - 1) < 2 ^ f.magnitudeBits := by
    have hexponents := Nat.two_pow_pos f.exponentBits
    have hhalf : 2 ^ (f.fractionBits - 1) < 2 ^ f.fractionBits :=
      Nat.pow_lt_pow_right (by norm_num) (by omega)
    obtain ⟨k, hk⟩ := Nat.exists_eq_add_of_le' hexponents
    have hsplit : (k + 1) * 2 ^ f.fractionBits = k * 2 ^ f.fractionBits + 2 ^ f.fractionBits := by
      ring
    rw [infinityMagnitude, magnitudeBits, pow_add, pow2_eq, pow2_eq, hk, Nat.add_sub_cancel,
      hsplit]
    omega
  unfold decode notANumber
  simp only [pow2_eq, toNat_ofMagnitude_mod false hlt]
  exact if_pos (by omega)

/-- There is one infinity of each sign. -/
theorem eq_infinity_of_decode (h : f.decode bits = .infinite negative) :
    bits = f.infinity negative := by
  have hbits := ofMagnitude_msb_mod bits
  simp only [decode, pow2_eq] at h
  split_ifs at h with hnan hinfinite
  obtain rfl := Number.infinite.inj h
  rw [← hbits, hinfinite, infinity, msb_ofMagnitude _ f.infinityMagnitude_lt]

/-! ### Finite patterns -/

/-- The magnitude of the finite number with this significand and exponent. -/
def magnitude (f : FloatFormat) (significand : ℕ) (exponent : ℤ) : ℕ :=
  significand + (exponent - f.minExponent).toNat * 2 ^ f.fractionBits

/-- The **canonical** significands and exponents are those of the finite numbers of the format:
the significand has its leading bit unless the exponent is the least one. -/
structure Canonical (f : FloatFormat) (significand : ℕ) (exponent : ℤ) : Prop where
  digits : significand < 2 ^ (f.fractionBits + 1)
  least : f.minExponent ≤ exponent
  leading : exponent = f.minExponent ∨ 2 ^ f.fractionBits ≤ significand
  finite : f.magnitude significand exponent < f.infinityMagnitude

/-- A finite magnitude pattern stands for its two fields, under either sign. -/
theorem decode_ofMagnitude (negative : Bool) {m : ℕ} (hm : m < f.infinityMagnitude) :
    f.decode (f.ofMagnitude negative m) =
      if m / 2 ^ f.fractionBits = 0 then
        .finite negative (m % 2 ^ f.fractionBits) f.minExponent
      else
        .finite negative (2 ^ f.fractionBits + m % 2 ^ f.fractionBits)
          (f.minExponent + (m / 2 ^ f.fractionBits : ℕ) - 1) := by
  have hlt : m < 2 ^ f.magnitudeBits := hm.trans f.infinityMagnitude_lt
  unfold decode
  simp only [pow2_eq, toNat_ofMagnitude_mod negative hlt, msb_ofMagnitude negative hlt, hm.ne,
    if_false, hm.not_gt]

/-- The pattern with a canonical magnitude stands for the number that the magnitude is made of. -/
private theorem decode_ofMagnitude_magnitude (h : f.Canonical significand exponent)
    (negative : Bool) : f.decode (f.ofMagnitude negative (f.magnitude significand exponent)) =
      .finite negative significand exponent := by
  obtain ⟨hdigits, hleast, hleading, hfinite⟩ := h
  have hpos := Nat.two_pow_pos f.fractionBits
  have hexponent := Int.toNat_of_nonneg (sub_nonneg.mpr hleast)
  rw [decode_ofMagnitude negative hfinite, magnitude, Nat.add_mul_div_right _ _ hpos,
    Nat.add_mul_mod_self_right]
  rw [pow_succ] at hdigits
  rcases lt_or_ge significand (2 ^ f.fractionBits) with hshort | hfull
  · obtain rfl : exponent = f.minExponent := by omega
    simp [Nat.div_eq_of_lt hshort, Nat.mod_eq_of_lt hshort]
  · have hdiv : significand / 2 ^ f.fractionBits = 1 :=
      Nat.div_eq_of_lt_le (by omega) (by omega)
    have hmod := Nat.div_add_mod significand (2 ^ f.fractionBits)
    rw [hdiv, mul_one] at hmod
    rw [hdiv, if_neg (by omega), hmod]
    congr 1
    push_cast
    omega

/-- A finite pattern has the magnitude of the canonical number that it stands for. -/
private theorem of_decode_finite (h : f.decode bits = .finite negative significand exponent) :
    f.Canonical significand exponent ∧
      bits = f.ofMagnitude negative (f.magnitude significand exponent) := by
  have hbits := ofMagnitude_msb_mod bits
  have hpos := Nat.two_pow_pos f.fractionBits
  simp only [decode, pow2_eq] at h
  generalize bits.toNat % 2 ^ f.magnitudeBits = m at h hbits
  have hdiv := Nat.div_add_mod m (2 ^ f.fractionBits)
  have hmod := Nat.mod_lt m hpos
  generalize m / 2 ^ f.fractionBits = field at h hdiv
  generalize m % 2 ^ f.fractionBits = fraction at h hdiv hmod
  have hdouble : 2 ^ (f.fractionBits + 1) = 2 ^ f.fractionBits * 2 := pow_succ _ _
  split_ifs at h with hnan hinfinite hfield
  · obtain ⟨rfl, rfl, rfl⟩ := Number.finite.inj h
    have hm : m = f.magnitude fraction f.minExponent := by
      simp only [magnitude, sub_self, Int.toNat_zero, zero_mul, add_zero]
      rw [← hdiv, hfield, mul_zero, zero_add]
    exact ⟨⟨by omega, le_rfl, Or.inl rfl, by omega⟩, by rw [← hm, hbits]⟩
  · obtain ⟨rfl, rfl, rfl⟩ := Number.finite.inj h
    obtain ⟨k, rfl⟩ := Nat.exists_eq_add_one_of_ne_zero hfield
    have hm : m = f.magnitude (2 ^ f.fractionBits + fraction)
        (f.minExponent + ((k + 1 : ℕ) : ℤ) - 1) := by
      have hexponent : (f.minExponent + ((k + 1 : ℕ) : ℤ) - 1 - f.minExponent).toNat = k := by
        omega
      rw [magnitude, hexponent, ← hdiv]
      ring
    exact ⟨⟨by omega, by omega, Or.inr (by omega), by omega⟩, by rw [← hm, hbits]⟩

/-- **Finite patterns.** Decoding is the inverse of putting a sign above the magnitude of a
canonical number. -/
theorem decode_eq_finite_iff :
    f.decode bits = .finite negative significand exponent ↔
      f.Canonical significand exponent ∧
        bits = f.ofMagnitude negative (f.magnitude significand exponent) := by
  refine ⟨of_decode_finite, ?_⟩
  rintro ⟨h, rfl⟩
  exact decode_ofMagnitude_magnitude h negative

/-- Zero is canonical. -/
theorem canonical_zero (hf : 0 < f.exponentBits) : f.Canonical 0 f.minExponent :=
  ⟨Nat.two_pow_pos _, le_rfl, Or.inl rfl, by simpa [magnitude] using infinityMagnitude_pos hf⟩

theorem decode_ofMagnitude_zero (hf : 0 < f.exponentBits) (negative : Bool) :
    f.decode (f.ofMagnitude negative 0) = .finite negative 0 f.minExponent := by
  have hzero : f.magnitude 0 f.minExponent = 0 := by simp [magnitude]
  rw [decode_eq_finite_iff, hzero]
  exact ⟨canonical_zero hf, rfl⟩

/-- A greater exponent belongs to a greater number. -/
theorem Canonical.lt_of_exponent_lt {significand' : ℕ} {exponent' : ℤ}
    (h : f.Canonical significand exponent) (h' : f.Canonical significand' exponent')
    (hlt : exponent < exponent') :
    (significand : ℚ) * 2 ^ exponent < significand' * 2 ^ exponent' := by
  have hdigits : (significand : ℚ) < 2 ^ (f.fractionBits + 1) := by exact_mod_cast h.digits
  have hleading : (2 : ℚ) ^ f.fractionBits ≤ significand' := by
    have hleast := h.least
    exact_mod_cast h'.leading.resolve_left (by omega)
  have hexponent : (2 : ℚ) ^ (exponent + 1) ≤ 2 ^ exponent' :=
    zpow_le_zpow_right₀ (by norm_num) (by omega)
  calc (significand : ℚ) * 2 ^ exponent < 2 ^ (f.fractionBits + 1) * 2 ^ exponent := by gcongr
    _ = 2 ^ f.fractionBits * 2 ^ (exponent + 1) := by
        rw [zpow_add_one₀ (by norm_num), pow_succ]
        ring
    _ ≤ significand' * 2 ^ exponent' := by gcongr

/-- A value has one canonical form. -/
private theorem Canonical.unique {significand' : ℕ} {exponent' : ℤ}
    (h : f.Canonical significand exponent) (h' : f.Canonical significand' exponent')
    (heq : (significand : ℚ) * 2 ^ exponent = significand' * 2 ^ exponent') :
    significand = significand' ∧ exponent = exponent' := by
  obtain rfl : exponent = exponent' := by
    rcases lt_trichotomy exponent exponent' with hlt | rfl | hgt
    · exact absurd heq (h.lt_of_exponent_lt h' hlt).ne
    · rfl
    · exact absurd heq (h'.lt_of_exponent_lt h hgt).ne'
  have hpower : (2 : ℚ) ^ exponent ≠ 0 := by positivity
  exact ⟨by exact_mod_cast mul_right_cancel₀ hpower heq, rfl⟩

/-- A sign and a value settle a finite pattern. -/
theorem eq_of_decode_finite {bits' : f.Bits} {significand' : ℕ} {exponent' : ℤ}
    (h : f.decode bits = .finite negative significand exponent)
    (h' : f.decode bits' = .finite negative significand' exponent')
    (heq : (significand : ℚ) * 2 ^ exponent = significand' * 2 ^ exponent') : bits = bits' := by
  obtain ⟨hcanonical, hbits⟩ := decode_eq_finite_iff.mp h
  obtain ⟨hcanonical', hbits'⟩ := decode_eq_finite_iff.mp h'
  obtain ⟨rfl, rfl⟩ := hcanonical.unique hcanonical' heq
  rw [hbits, hbits']

/-! ### The greatest finite number -/

/-- The exponent of the greatest finite numbers. -/
def maxExponent (f : FloatFormat) : ℤ :=
  f.minExponent + (2 ^ f.exponentBits - 3 : ℕ)

/-- The greatest finite number of the format. -/
def greatest (f : FloatFormat) : ℚ :=
  (2 ^ (f.fractionBits + 1) - 1 : ℕ) * 2 ^ f.maxExponent

theorem four_le_two_pow (hf : 2 ≤ f.exponentBits) : 4 ≤ 2 ^ f.exponentBits :=
  calc 4 = 2 ^ 2 := rfl
    _ ≤ 2 ^ f.exponentBits := Nat.pow_le_pow_right (by norm_num) hf

/-- The greatest finite number is below infinity by one. -/
theorem canonical_greatest (hf : 2 ≤ f.exponentBits) :
    f.Canonical (2 ^ (f.fractionBits + 1) - 1) f.maxExponent := by
  have hpos := Nat.two_pow_pos f.fractionBits
  have hexponents := four_le_two_pow hf
  have hdouble : 2 ^ (f.fractionBits + 1) = 2 ^ f.fractionBits * 2 := pow_succ _ _
  obtain ⟨k, hk⟩ := Nat.exists_eq_add_of_le hexponents
  have hexponent : f.maxExponent - f.minExponent = ((k + 1 : ℕ) : ℤ) := by
    rw [maxExponent, hk]
    omega
  refine ⟨by omega, by omega, Or.inr (by omega), ?_⟩
  have hinfinity : f.infinityMagnitude = (k + 3) * 2 ^ f.fractionBits := by
    rw [infinityMagnitude, pow2_eq, pow2_eq, hk]
    congr 1
    omega
  rw [magnitude, hexponent, hinfinity, Int.toNat_natCast]
  have hsplit : (k + 3) * 2 ^ f.fractionBits =
      2 ^ f.fractionBits * 2 + (k + 1) * 2 ^ f.fractionBits := by ring
  omega

private theorem Canonical.exponent_le (h : f.Canonical significand exponent)
    (hf : 2 ≤ f.exponentBits) : exponent ≤ f.maxExponent := by
  obtain ⟨-, hleast, hleading, hfinite⟩ := h
  have hexponents := four_le_two_pow hf
  by_contra hgreater
  rw [not_le, maxExponent] at hgreater
  have hfull := hleading.resolve_left (by omega)
  -- two binades beyond the exponent are those of infinity
  have hbinades : 2 ^ f.exponentBits - 2 ≤ (exponent - f.minExponent).toNat := by omega
  have hmagnitude : f.infinityMagnitude ≤ f.magnitude significand exponent :=
    calc f.infinityMagnitude = (2 ^ f.exponentBits - 1) * 2 ^ f.fractionBits := rfl
      _ = (1 + (2 ^ f.exponentBits - 2)) * 2 ^ f.fractionBits := by
          congr 1
          omega
      _ = 2 ^ f.fractionBits + (2 ^ f.exponentBits - 2) * 2 ^ f.fractionBits := by ring
      _ ≤ significand + (exponent - f.minExponent).toNat * 2 ^ f.fractionBits := by gcongr
  exact hfinite.not_ge hmagnitude

theorem Canonical.le_greatest (h : f.Canonical significand exponent)
    (hf : 2 ≤ f.exponentBits) : (significand : ℚ) * 2 ^ exponent ≤ f.greatest := by
  have hdigits : (significand : ℚ) ≤ (2 ^ (f.fractionBits + 1) - 1 : ℕ) := by
    have hlt := h.digits
    exact_mod_cast (by omega : significand ≤ 2 ^ (f.fractionBits + 1) - 1)
  have hexponent : (2 : ℚ) ^ exponent ≤ 2 ^ f.maxExponent :=
    zpow_le_zpow_right₀ (by norm_num) (h.exponent_le hf)
  rw [greatest]
  gcongr

private theorem two_pow_exponentBits (hf : 2 ≤ f.exponentBits) :
    2 ^ f.exponentBits = 2 * 2 ^ (f.exponentBits - 1) := by
  rw [← pow_succ']
  congr 1
  omega

theorem minExponent_nonpos (hf : 2 ≤ f.exponentBits) : f.minExponent ≤ 0 := by
  have hexponents := four_le_two_pow hf
  rw [two_pow_exponentBits hf] at hexponents
  rw [minExponent, pow2_eq]
  omega

theorem fractionBits_add_maxExponent (hf : 2 ≤ f.exponentBits) :
    f.fractionBits + f.maxExponent = (2 ^ (f.exponentBits - 1) - 1 : ℕ) := by
  have hexponents := four_le_two_pow hf
  rw [two_pow_exponentBits hf] at hexponents
  rw [maxExponent, minExponent, pow2_eq, two_pow_exponentBits hf]
  omega

/-- The greatest power of two of the format is `2 ^ (2 ^ (f.exponentBits - 1) - 1)`. -/
theorem two_pow_le_greatest (hf : 2 ≤ f.exponentBits) {k : ℕ}
    (hk : k ≤ 2 ^ (f.exponentBits - 1) - 1) : (2 : ℚ) ^ k ≤ f.greatest := by
  have hexponent := fractionBits_add_maxExponent hf
  have hpos := Nat.two_pow_pos f.fractionBits
  have hdigits : ((2 ^ f.fractionBits : ℕ) : ℚ) ≤ (2 ^ (f.fractionBits + 1) - 1 : ℕ) := by
    have hdouble : 2 ^ (f.fractionBits + 1) = 2 ^ f.fractionBits * 2 := pow_succ _ _
    exact_mod_cast (by omega : 2 ^ f.fractionBits ≤ 2 ^ (f.fractionBits + 1) - 1)
  calc (2 : ℚ) ^ k ≤ 2 ^ (2 ^ (f.exponentBits - 1) - 1) :=
        pow_le_pow_right₀ (by norm_num) hk
    _ = (2 ^ f.fractionBits : ℕ) * 2 ^ f.maxExponent := by
        rw [← zpow_natCast, ← hexponent, zpow_add₀ (by norm_num), zpow_natCast]
        push_cast
        rfl
    _ ≤ f.greatest := by
        rw [greatest]
        gcongr

/-- The integers of as many digits as a significand are in the range of the format. -/
theorem natCast_le_greatest (hmax : 0 ≤ f.maxExponent) {n : ℕ}
    (hn : n < 2 ^ (f.fractionBits + 1)) : (n : ℚ) ≤ f.greatest := by
  have hdigits : (n : ℚ) ≤ (2 ^ (f.fractionBits + 1) - 1 : ℕ) := by
    exact_mod_cast Nat.le_sub_one_of_lt hn
  calc (n : ℚ) ≤ (2 ^ (f.fractionBits + 1) - 1 : ℕ) := hdigits
    _ ≤ f.greatest := le_mul_of_one_le_right (by positivity)
        (one_le_zpow₀ (by norm_num) hmax)

end FloatFormat

end ColumnCast
