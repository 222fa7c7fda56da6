import ColumnCast.Proofs.Float.Nearest

/-!
# Neighbouring numbers of a format

Magnitudes are in the order of the numbers that they belong to, and a magnitude has the parity of
the significand in it. So two numbers with even significands are no neighbours: there is a third
between them, and `FloatFormat.IsNearest` settles a value (`FloatFormat.IsNearest.unique`).
-/

namespace ColumnCast

namespace FloatFormat

variable {f : FloatFormat} {significand significand' : ℕ} {exponent exponent' : ℤ}

/-! ### The order of magnitudes -/

private theorem Canonical.magnitude_lt_of_exponent_lt (h : f.Canonical significand exponent)
    (h' : f.Canonical significand' exponent') (hlt : exponent < exponent') :
    f.magnitude significand exponent < f.magnitude significand' exponent' := by
  have hleast := h.least
  have hfull := h'.leading.resolve_left (by omega)
  have hexponent : (exponent - f.minExponent).toNat + 1 ≤ (exponent' - f.minExponent).toNat := by
    omega
  calc f.magnitude significand exponent
      < 2 ^ (f.fractionBits + 1) + (exponent - f.minExponent).toNat * 2 ^ f.fractionBits :=
        Nat.add_lt_add_right h.digits _
    _ = 2 ^ f.fractionBits + ((exponent - f.minExponent).toNat + 1) * 2 ^ f.fractionBits := by
        ring
    _ ≤ significand' + (exponent' - f.minExponent).toNat * 2 ^ f.fractionBits := by gcongr

/-- **The order of numbers** is that of their magnitudes. -/
theorem Canonical.lt_iff_magnitude_lt (h : f.Canonical significand exponent)
    (h' : f.Canonical significand' exponent') :
    (significand : ℚ) * 2 ^ exponent < significand' * 2 ^ exponent' ↔
      f.magnitude significand exponent < f.magnitude significand' exponent' := by
  rcases lt_trichotomy exponent exponent' with hlt | rfl | hgt
  · exact iff_of_true (h.lt_of_exponent_lt h' hlt) (h.magnitude_lt_of_exponent_lt h' hlt)
  · have hpower : (0 : ℚ) < 2 ^ exponent := by positivity
    rw [mul_lt_mul_iff_left₀ hpower, Nat.cast_lt, magnitude, magnitude, Nat.add_lt_add_iff_right]
  · exact iff_of_false (h'.lt_of_exponent_lt h hgt).not_gt
      (h'.magnitude_lt_of_exponent_lt h hgt).not_gt

/-- The magnitudes below infinity are those of finite numbers. -/
private theorem exists_canonical_of_lt {m : ℕ} (hm : m < f.infinityMagnitude) :
    ∃ significand exponent, f.Canonical significand exponent ∧
      f.magnitude significand exponent = m := by
  obtain ⟨significand, exponent, hdecode⟩ : ∃ significand exponent,
      f.decode (f.ofMagnitude false m) = .finite false significand exponent := by
    rw [decode_ofMagnitude false hm]
    split_ifs
    · exact ⟨_, _, rfl⟩
    · exact ⟨_, _, rfl⟩
  obtain ⟨hcanonical, hbits⟩ := decode_eq_finite_iff.mp hdecode
  have hgiven := toNat_ofMagnitude_mod false (hm.trans f.infinityMagnitude_lt)
  rw [hbits, toNat_ofMagnitude_mod false (hcanonical.finite.trans f.infinityMagnitude_lt)] at hgiven
  exact ⟨significand, exponent, hcanonical, hgiven⟩

private theorem even_magnitude_iff (hdigits : 0 < f.fractionBits) (significand : ℕ) (exponent : ℤ) :
    Even (f.magnitude significand exponent) ↔ Even significand := by
  have hoffset : Even ((exponent - f.minExponent).toNat * 2 ^ f.fractionBits) :=
    (even_two.pow_of_ne_zero hdigits.ne').mul_left _
  rw [magnitude, Nat.even_add]
  exact iff_true_right hoffset

/-- Between two magnitudes of even significands there is another one. -/
private theorem Canonical.exists_between (hdigits : 0 < f.fractionBits)
    (h : f.Canonical significand exponent) (h' : f.Canonical significand' exponent')
    (heven : Even significand) (heven' : Even significand')
    (hlt : (significand : ℚ) * 2 ^ exponent < significand' * 2 ^ exponent') :
    ∃ between places, f.Canonical between places ∧
      (significand : ℚ) * 2 ^ exponent < between * 2 ^ places ∧
      (between : ℚ) * 2 ^ places < significand' * 2 ^ exponent' := by
  rw [h.lt_iff_magnitude_lt h'] at hlt
  obtain ⟨i, hi⟩ := (even_magnitude_iff hdigits significand exponent).mpr heven
  obtain ⟨j, hj⟩ := (even_magnitude_iff hdigits significand' exponent').mpr heven'
  have hnext : f.magnitude significand exponent + 1 < f.magnitude significand' exponent' := by
    omega
  obtain ⟨between, places, hbetween, hmagnitude⟩ :=
    exists_canonical_of_lt (hnext.trans h'.finite)
  refine ⟨between, places, hbetween, ?_, ?_⟩
  · rw [h.lt_iff_magnitude_lt hbetween]
    omega
  · rw [hbetween.lt_iff_magnitude_lt h']
    omega

/-! ### One nearest number -/

/-- Two numbers with even significands have another number between them. -/
private theorem exists_represents_between (hf : 2 ≤ f.exponentBits) (hdigits : 0 < f.fractionBits)
    {bits bits' : f.Bits} (heven : (f.decode bits).IsEven) (heven' : (f.decode bits').IsEven)
    (hlt : (f.decode bits).value < (f.decode bits').value) :
    ∃ y, f.Represents y ∧ (f.decode bits).value < y ∧ y < (f.decode bits').value := by
  obtain ⟨negative, significand, exponent, hdecode, hs⟩ := heven.exists_eq
  obtain ⟨negative', significand', exponent', hdecode', hs'⟩ := heven'.exists_eq
  have h := (decode_eq_finite_iff.mp hdecode).1
  have h' := (decode_eq_finite_iff.mp hdecode').1
  rw [hdecode, hdecode', Number.value_finite, Number.value_finite] at hlt ⊢
  have hnonneg : (0 : ℚ) ≤ significand * 2 ^ exponent := by positivity
  have hnonneg' : (0 : ℚ) ≤ significand' * 2 ^ exponent' := by positivity
  -- above zero, and below it in the opposite order
  have hpositive (hlt : (significand : ℚ) * 2 ^ exponent < significand' * 2 ^ exponent') :
      ∃ y, f.Represents y ∧ (significand : ℚ) * 2 ^ exponent < y ∧
        y < significand' * 2 ^ exponent' := by
    obtain ⟨between, places, hbetween, hlow, hhigh⟩ := h.exists_between hdigits h' hs hs' hlt
    exact ⟨_, hbetween.represents, hlow, hhigh⟩
  have hnegative (hlt : (significand' : ℚ) * 2 ^ exponent' < significand * 2 ^ exponent) :
      ∃ y, f.Represents y ∧ -((significand : ℚ) * 2 ^ exponent) < y ∧
        y < -((significand' : ℚ) * 2 ^ exponent') := by
    obtain ⟨between, places, hbetween, hlow, hhigh⟩ := h'.exists_between hdigits h hs' hs hlt
    exact ⟨_, hbetween.represents.neg, neg_lt_neg hhigh, neg_lt_neg hlow⟩
  cases negative <;> cases negative' <;>
    simp only [Number.sign_false_mul, Number.sign_true_mul] at hlt ⊢
  case false.false => exact hpositive hlt
  case true.true => exact hnegative (neg_lt_neg_iff.mp hlt)
  case false.true => linarith
  case true.false =>
    rcases hnonneg.lt_or_eq with hpos | hzero
    · rcases hnonneg'.lt_or_eq with hpos' | hzero'
      · exact ⟨0, represents_zero hf, neg_lt_zero.mpr hpos, hpos'⟩
      · rw [← hzero'] at hnegative ⊢
        rw [← neg_zero]
        exact hnegative hpos
    · rw [← hzero] at hpositive hlt ⊢
      rw [neg_zero] at hlt ⊢
      exact hpositive hlt

/-- A number strictly between two equally near ones is nearer. -/
private theorem abs_sub_lt_of_between {x v w y : ℚ} (htie : |x - w| = |x - v|) (hlow : v < y)
    (hhigh : y < w) : |x - y| < |x - v| := by
  rcases abs_eq_abs.mp htie with h | h
  · linarith
  · have hpos : 0 < x - v := by linarith
    rw [abs_of_pos hpos, abs_lt]
    constructor <;> linarith

/-- **One nearest number.** A number has no two nearest numbers in a format. -/
theorem IsNearest.unique (hf : 2 ≤ f.exponentBits) (hdigits : 0 < f.fractionBits) {x : ℚ}
    {bits bits' : f.Bits} (h : f.IsNearest x bits) (h' : f.IsNearest x bits') :
    (f.decode bits).value = (f.decode bits').value := by
  have htie : |x - (f.decode bits').value| = |x - (f.decode bits).value| :=
    le_antisymm (h'.close _ h.represents) (h.close _ h'.represents)
  by_contra hne
  have heven := h.isEven _ h'.represents htie (Ne.symm hne)
  have heven' := h'.isEven _ h.represents htie.symm hne
  rcases lt_or_gt_of_ne hne with hlt | hgt
  · obtain ⟨y, hy, hlow, hhigh⟩ := exists_represents_between hf hdigits heven heven' hlt
    exact (h.close y hy).not_gt (abs_sub_lt_of_between htie hlow hhigh)
  · obtain ⟨y, hy, hlow, hhigh⟩ := exists_represents_between hf hdigits heven' heven hgt
    exact (h'.close y hy).not_gt (abs_sub_lt_of_between htie.symm hlow hhigh)

end FloatFormat

end ColumnCast
