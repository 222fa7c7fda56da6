import ColumnCast.Proofs.Numeric.Truncation

/-!
# From integers to floating-point numbers and back

An integer becomes the floating-point number nearest to it, rounded once. That number is again an
integer, at most one beyond the range of the type, so the way back gives what rounding has made of
the integer, and an overflow exactly when it was rounded up to the bound of the range
(`NumericCast.roundTrip_exact`).
-/

namespace ColumnCast

namespace NumericCast

variable {i : IntegerKind} {k : FloatingKind} {v : Value} {n : ℤ}

/-- The conversion of an integer type to a floating-point type. -/
def toFloating (i : IntegerKind) (k : FloatingKind) : NumericCast :=
  ⟨i.numericType, k.numericType, by cases i <;> cases k <;> decide⟩

/-- An integer becomes the pattern that its own format rounds it to. -/
private theorem toFloating_convert (k : FloatingKind) (h : i.toInt? v = some n) :
    (toFloating i k).convert v = .ok (k.value (k.format.ofInt n)) := by
  cases i <;> cases v <;> cases h <;> cases k <;> rfl

end NumericCast

/-! ### The rounded integer -/

namespace IntegerKind

variable {i : IntegerKind} {k : FloatingKind} {n : ℤ}

/-- The integers in range are in the range of both formats. -/
private theorem natAbs_le_greatest (h : i.Holds n) (k : FloatingKind) :
    (n.natAbs : ℚ) ≤ k.format.greatest := by
  obtain ⟨hlow, hhigh⟩ := h
  have hle : |n| ≤ i.bound := abs_le.mpr ⟨hlow, hhigh.le⟩
  calc (n.natAbs : ℚ) = |(n : ℚ)| := by rw [Nat.cast_natAbs, Int.cast_abs]
    _ ≤ i.bound := by exact_mod_cast hle
    _ ≤ |(i.bound : ℚ)| := le_abs_self _
    _ ≤ k.format.greatest :=
        FloatFormat.abs_le_greatest k.two_le_exponentBits (k.represents_bound i)

/-- **Rounding an integer.** The rounded integer is an integer at most one beyond the range. -/
theorem exists_rounded (h : i.Holds n) {bits : k.format.Bits}
    (hnearest : k.format.IsNearest n bits) :
    ∃ r : ℤ, (k.format.decode bits).value = r ∧ -i.bound ≤ r ∧ r ≤ i.bound := by
  obtain ⟨r, hr⟩ := hnearest.exists_int k.two_le_exponentBits k.maxExponent_nonneg
  obtain ⟨hlow, hhigh⟩ := h
  have hleast := hnearest.le_value (k.represents_neg_bound i) (by exact_mod_cast hlow)
  have hgreatest := hnearest.value_le (k.represents_bound i) (by exact_mod_cast hhigh.le)
  rw [hr] at hleast hgreatest
  exact ⟨r, hr, by exact_mod_cast hleast, by exact_mod_cast hgreatest⟩

/-- Every 32-bit integer is a double. -/
private theorem represents_double_of_int32 (h : int32.Holds n) :
    FloatFormat.double.Represents n := by
  obtain ⟨hlow, hhigh⟩ := h
  have hbound : int32.bound = 2 ^ 31 := rfl
  refine FloatFormat.represents_intCast (by decide) (by decide) ?_
  calc n.natAbs ≤ 2 ^ 31 := by omega
    _ < 2 ^ (FloatFormat.double.fractionBits + 1) := by decide

end IntegerKind

namespace NumericCast

variable {i : IntegerKind} {k : FloatingKind} {v : Value} {n : ℤ}

/-- **There and back.** An integer is converted to the floating-point number nearest to it, under
its own sign. What comes back is the integer that this number is, or an overflow when it is the
bound of the range. So the integer itself comes back exactly when the format represents it, which
the 64-bit format does for all integers of 32 bits. -/
theorem roundTrip_exact (i : IntegerKind) (k : FloatingKind) {v : Value} {n : ℤ}
    (h : i.toInt? v = some n) :
    ∃ bits, (toFloating i k).convert v = .ok (k.value bits) ∧
      (∃ significand exponent,
        k.format.decode bits = .finite (n < 0) significand exponent) ∧
      k.format.IsNearest n bits ∧
      ∃ r : ℤ, (k.format.decode bits).value = r ∧
        (∀ w, (toInteger k i).convert (k.value bits) = .ok w ↔ i.toInt? w = some r) ∧
        (i.Holds r → ∃ w, (toInteger k i).convert (k.value bits) = .ok w) ∧
        ((toInteger k i).convert (k.value bits) =
            .error (.overflow (.float k.numericType.valueKind (k.widen bits) i)) ↔
          r = i.bound) ∧
        ((toInteger k i).convert (k.value bits) = .ok v ↔ k.format.Represents n) ∧
        (i = .int32 → k = .double → (toInteger k i).convert (k.value bits) = .ok v) := by
  have hholds := IntegerKind.holds_of_toInt? h
  obtain ⟨hdecode, hnearest⟩ := FloatFormat.isNearest_ofInt k.two_le_exponentBits
    k.fractionBits_pos (IntegerKind.natAbs_le_greatest hholds k)
  obtain ⟨r, hr, hlow, hhigh⟩ := IntegerKind.exists_rounded hholds hnearest
  have hpart : integerPart (k.format.decode (k.format.ofInt n)).value = r := by
    rw [hr, integerPart_intCast]
  have hok (w : Value) :
      (toInteger k i).convert (k.value (k.format.ofInt n)) = .ok w ↔ i.toInt? w = some r := by
    rw [toInteger_eq_ok_iff hnearest.isFinite, hpart]
  have hback : (toInteger k i).convert (k.value (k.format.ofInt n)) = .ok v ↔
      k.format.Represents n := by
    rw [hok, h, ← hnearest.value_eq_iff, hr, Option.some.injEq, Int.cast_inj, eq_comm]
  refine ⟨k.format.ofInt n, toFloating_convert k h, hdecode, hnearest, r, hr, hok, fun hrange => ?_,
    ?_, hback, ?_⟩
  · exact ⟨i.word r, (hok _).mpr (IntegerKind.toInt?_word hrange)⟩
  · rw [toInteger_eq_overflow_iff hnearest.isFinite, hpart, IntegerKind.Holds]
    omega
  · rintro rfl rfl
    exact hback.mpr (IntegerKind.represents_double_of_int32 hholds)

/-- Just above the midpoint of two floats rounding is up, although the nearest double is that
midpoint; and the greatest 32-bit integer is rounded up to `2 ^ 31`, which does not come back. -/
theorem roundTrip_exact_edges :
    (∃ bits, (toFloating .int64 .float).convert (.int64 1152921573326323713) =
          .ok (.float32 bits) ∧
        (toInteger .float .int64).convert (.float32 bits) = .ok (.int64 1152921642045800448)) ∧
      ∃ bits, (toFloating .int32 .float).convert (.int32 2147483647) = .ok (.float32 bits) ∧
        (toInteger .float .int32).convert (.float32 bits) =
          .error (.overflow (.float .float32 bits.widen .int32)) := by
  have hmidpoint : (toFloating .int64 .float).convert (.int64 1152921573326323713) =
      .ok (.float32 0x5D800001#32) := by
    decide +kernel
  have hgreatest : (toFloating .int32 .float).convert (.int32 2147483647) =
      .ok (.float32 0x4F000000#32) := by
    decide +kernel
  obtain ⟨bits, hbits, -, -, r, hr, hok, -⟩ :=
    roundTrip_exact .int64 .float (v := .int64 1152921573326323713) rfl
  obtain ⟨bits', hbits', -, -, r', hr', -, -, hoverflow, -⟩ :=
    roundTrip_exact .int32 .float (v := .int32 2147483647) rfl
  obtain rfl : bits = 0x5D800001#32 :=
    Value.float32.inj (Except.ok.inj (hbits.symm.trans hmidpoint))
  obtain rfl : bits' = 0x4F000000#32 :=
    Value.float32.inj (Except.ok.inj (hbits'.symm.trans hgreatest))
  refine ⟨⟨_, hbits, (hok _).mpr ?_⟩, _, hbits', hoverflow.mpr ?_⟩
  · have hdecode : FloatingKind.float.format.decode 0x5D800001#32 = .finite false 0x800001 37 := by
      decide
    rw [hdecode] at hr
    have hrQ : (r : ℚ) = 1152921642045800448 := by rw [← hr]; norm_num [Number.value]
    exact congrArg some (by exact_mod_cast hrQ.symm)
  · have hdecode : FloatingKind.float.format.decode 0x4F000000#32 = .finite false 0x800000 8 := by
      decide
    rw [hdecode] at hr'
    have hrQ : (r' : ℚ) = 2147483648 := by rw [← hr']; norm_num [Number.value]
    exact_mod_cast hrQ

end NumericCast

end ColumnCast
