import ColumnCast.Proofs.Numeric.Truncation

/-!
# The range of an integer type, tested on doubles

Truncation can stay among the doubles until the last step: the fraction is dropped, which leaves a
double, the range is tested by comparing doubles, and the cast saturates. The ends of the 32-bit
range are both doubles and belong to it. The greatest 64-bit integer is no double, so that its
range is tested against `2 ^ 63`, which does not belong to it. The result is that of
`NumericCast.truncate`, and no cast saturates (`NumericCast.guarded_eq_truncate`), so that either
way a number becomes its integer part, or an overflow, or invalid (`NumericCast.toInteger_exact`).
-/

namespace ColumnCast

open FloatFormat (double)

/-! ### Dropping the fraction -/

private theorem abs_integerPart_le (x : ℚ) : |(integerPart x : ℚ)| ≤ |x| := by
  rw [integerPart]
  split_ifs with hx
  · have hnonneg : (0 : ℚ) ≤ ⌊x⌋ := by exact_mod_cast Int.floor_nonneg.mpr hx
    rw [abs_of_nonneg hnonneg, abs_of_nonneg hx]
    exact Int.floor_le x
  · have hnonpos : (⌈x⌉ : ℚ) ≤ 0 := by
      exact_mod_cast Int.ceil_le.mpr (by rw [Int.cast_zero]; linarith)
    rw [abs_of_nonpos hnonpos, abs_of_neg (not_le.mp hx)]
    linarith [Int.le_ceil x]

namespace FloatFormat

variable {f : FloatFormat} {bits : f.Bits}

/-- The integer part of a number of a format is one as well. -/
private theorem represents_integerPart (hf : 2 ≤ f.exponentBits) (hmax : 0 ≤ f.maxExponent) {x : ℚ}
    (hx : f.Represents x) : f.Represents (integerPart x) := by
  obtain ⟨negative, significand, exponent, hcanonical, heq⟩ := represents_iff.mp hx
  rcases lt_or_ge exponent 0 with hneg | hnonneg
  · -- numbers with binary places have few digits before them
    have hpart : |(integerPart x : ℚ)| < 2 ^ f.fractionBits :=
      calc |(integerPart x : ℚ)| ≤ |x| := abs_integerPart_le x
        _ = significand * 2 ^ exponent := by
            rw [heq, Number.abs_sign_mul, abs_of_nonneg (by positivity)]
        _ < 2 ^ f.fractionBits := hcanonical.lt_two_pow hneg
    rw [← Int.cast_abs, Int.abs_eq_natAbs, Int.cast_natCast] at hpart
    refine represents_intCast hf hmax ?_
    calc (integerPart x).natAbs < 2 ^ f.fractionBits := by exact_mod_cast hpart
      _ < 2 ^ (f.fractionBits + 1) := Nat.pow_lt_pow_succ (by norm_num)
  · obtain ⟨k, rfl⟩ := Int.eq_ofNat_of_zero_le hnonneg
    have hint : x = (Number.sign negative * (significand * 2 ^ k) : ℤ) := by
      rw [heq, zpow_natCast]
      push_cast
      rfl
    rwa [hint, integerPart_intCast, ← hint]

/-- The number of the format without the fraction of a number. -/
def dropFraction (f : FloatFormat) (bits : f.Bits) : f.Bits :=
  match f.decode bits with
  | .finite negative significand exponent =>
    let (num, den) := binaryRatio significand exponent
    f.ofRatio negative (num / den) 1
  | _ => bits

/-- Dropping the fraction is exact. -/
private theorem decode_dropFraction (hf : 2 ≤ f.exponentBits) (hdigits : 0 < f.fractionBits)
    (hmax : 0 ≤ f.maxExponent) (h : (f.decode bits).IsFinite) :
    (f.decode (f.dropFraction bits)).IsFinite ∧
      (f.decode (f.dropFraction bits)).value = integerPart (f.decode bits).value := by
  have hpart := represents_integerPart hf hmax ⟨bits, h, rfl⟩
  obtain ⟨negative, significand, exponent, hdecode⟩ := h.exists_eq
  set whole := (binaryRatio significand exponent).1 / (binaryRatio significand exponent).2
  have hdrop : f.dropFraction bits = f.ofRatio negative whole 1 := by
    rw [dropFraction, hdecode]
  have hvalue : (integerPart (f.decode bits).value : ℚ) =
      Number.sign negative * ((whole : ℚ) / (1 : ℕ)) := by
    have hwhole := integerPart_natCast_div (binaryRatio significand exponent).1
      (binaryRatio significand exponent).2
    rw [binaryRatio_div] at hwhole
    rw [hdecode, Number.value_finite, Nat.cast_one, div_one, integerPart_sign_mul, hwhole]
    push_cast
    rfl
  rw [hvalue] at hpart ⊢
  have hrange := abs_le_greatest hf hpart
  rw [Number.abs_sign_mul, abs_of_nonneg (by positivity)] at hrange
  have hnearest := (isNearest_ofRatio hf hdigits negative one_pos hrange).2
  rw [hdrop]
  exact ⟨hnearest.isFinite, hnearest.value_eq_iff.mpr hpart⟩

end FloatFormat

/-! ### Comparing doubles -/

/-- One number is less than another; what is not a number is not compared. -/
def Number.less : Number → Number → Bool
  | finite negative significand exponent, finite negative' significand' exponent' =>
    (finite negative significand exponent).value < (finite negative' significand' exponent').value
  | finite _ _ _, infinite negative => !negative
  | infinite negative, finite _ _ _ => negative
  | infinite negative, infinite negative' => negative && !negative'
  | _, _ => false

private theorem Number.less_iff {number number' : Number} (h : number.IsFinite)
    (h' : number'.IsFinite) : number.less number' = true ↔ number.value < number'.value := by
  obtain ⟨negative, significand, exponent, rfl⟩ := h.exists_eq
  obtain ⟨negative', significand', exponent', rfl⟩ := h'.exists_eq
  exact decide_eq_true_iff

/-- A double that an integer becomes without rounding is that integer. -/
private theorem FloatFormat.decode_ofInt_double {n : ℤ} (hn : double.Represents n) :
    (double.decode (double.ofInt n)).IsFinite ∧ (double.decode (double.ofInt n)).value = n := by
  have hrange := abs_le_greatest (by decide) hn
  rw [← Int.cast_abs, Int.abs_eq_natAbs, Int.cast_natCast] at hrange
  have hnearest := (isNearest_ofInt (by decide) (by decide) hrange).2
  exact ⟨hnearest.isFinite, hnearest.value_eq_iff.mpr hn⟩

namespace IntegerKind

/-- The number is outside the range of an integer type, by comparing it with doubles: with both
ends of the 32-bit range, and with the least number of the 64-bit range and the first above it. -/
def excludes : IntegerKind → Number → Bool
  | int32, number =>
    number.less (double.decode (double.ofInt (-2 ^ 31))) ||
      (double.decode (double.ofInt (2 ^ 31 - 1))).less number
  | int64, number =>
    number.less (double.decode (double.ofInt (-2 ^ 63))) ||
      !number.less (double.decode (double.ofInt (2 ^ 63)))

/-- For a double without a fraction the comparisons are those of integers. -/
private theorem excludes_iff {i : IntegerKind} {number : Number} (h : number.IsFinite) {n : ℤ}
    (hn : number.value = n) : i.excludes number = true ↔ ¬i.Holds n := by
  cases i with
  | int32 =>
    obtain ⟨hleast, hleast_eq⟩ := FloatFormat.decode_ofInt_double (n := -2 ^ 31)
      (FloatingKind.represents_neg_bound .double .int32)
    obtain ⟨hgreatest, hgreatest_eq⟩ := FloatFormat.decode_ofInt_double (n := 2 ^ 31 - 1)
      (FloatFormat.represents_intCast (by decide) (by decide) (by decide))
    rw [excludes, Bool.or_eq_true, Number.less_iff h hleast, Number.less_iff hgreatest h,
      hn, hleast_eq, hgreatest_eq, Int.cast_lt, Int.cast_lt, Holds, bound, bits]
    omega
  | int64 =>
    obtain ⟨hleast, hleast_eq⟩ := FloatFormat.decode_ofInt_double (n := -2 ^ 63)
      (FloatingKind.represents_neg_bound .double .int64)
    obtain ⟨habove, habove_eq⟩ := FloatFormat.decode_ofInt_double (n := 2 ^ 63)
      (FloatingKind.represents_bound .double .int64)
    rw [excludes, Bool.or_eq_true, Bool.not_eq_true', ← Bool.not_eq_true, Number.less_iff h hleast,
      Number.less_iff h habove, hn, hleast_eq, habove_eq, Int.cast_lt, Int.cast_lt, Holds, bound,
      bits]
    omega

/-- The integer that a cast makes of a number: the end of the range that is nearer to it when it
is out of range, and zero when it is not a number. -/
def saturate (i : IntegerKind) : Number → ℤ
  | .nan => 0
  | .infinite negative => if negative then -i.bound else i.bound - 1
  | .finite negative significand exponent =>
    max (-i.bound)
      (min (i.bound - 1) (integerPart (Number.finite negative significand exponent).value))

/-- A cast of an integer in range keeps it. -/
private theorem saturate_of_holds {i : IntegerKind} {number : Number} (h : number.IsFinite) {n : ℤ}
    (hn : number.value = n) (hrange : i.Holds n) : i.saturate number = n := by
  obtain ⟨negative, significand, exponent, rfl⟩ := h.exists_eq
  obtain ⟨hlow, hhigh⟩ := hrange
  rw [saturate, hn, integerPart_intCast, min_eq_right (by omega), max_eq_right hlow]

end IntegerKind

namespace NumericCast

/-- Truncation among the doubles: the fraction is dropped, the range is tested, and the double is
cast. -/
def guarded (source : ValueKind) (bits : Binary64) (i : IntegerKind) :
    Except ConversionError Value :=
  let truncated := double.decode (double.dropFraction bits)
  match double.decode bits with
  | .nan => .error (.invalidValue (.notANumber i))
  | .infinite _ => .error (.invalidValue (.infinite i))
  | .finite _ _ _ =>
    if i.excludes truncated then .error (.overflow (.float source bits i))
    else .ok (i.word (i.saturate truncated))

/-- **The range test.** Testing doubles and casting them gives the integer part or the overflow
that exact arithmetic gives. -/
theorem guarded_eq_truncate (source : ValueKind) (bits : Binary64) (i : IntegerKind) :
    guarded source bits i = truncate source bits i := by
  cases hdecode : double.decode bits with
  | nan =>
    rw [truncate_of_nan hdecode, guarded, hdecode]
  | infinite negative =>
    rw [truncate_of_infinite hdecode, guarded, hdecode]
  | finite negative significand exponent =>
    have hfinite := Number.isFinite_of_eq hdecode
    obtain ⟨hdrop, hvalue⟩ :=
      FloatFormat.decode_dropFraction (by decide) (by decide) (by decide) hfinite
    have hguarded : guarded source bits i =
        if i.excludes (double.decode (double.dropFraction bits)) then
          .error (.overflow (.float source bits i))
        else .ok (i.word (i.saturate (double.decode (double.dropFraction bits)))) := by
      rw [guarded, hdecode]
    rw [hguarded]
    by_cases hrange : i.Holds (integerPart (double.decode bits).value)
    · rw [if_neg fun h => (IntegerKind.excludes_iff hdrop hvalue).mp h hrange,
        IntegerKind.saturate_of_holds hdrop hvalue hrange, truncate_of_holds hfinite hrange]
    · rw [if_pos ((IntegerKind.excludes_iff hdrop hvalue).mpr hrange),
        truncate_of_not_holds hfinite hrange]

/-- **Truncation.** What is not finite is invalid, for the cause that it is. A finite number is
converted exactly when it is strictly between the range's ends, each moved outward to the next
integer: to its integer part and nothing else. Otherwise it is an overflow. The same comes of
testing the range and casting among the doubles. -/
theorem toInteger_exact (k : FloatingKind) (i : IntegerKind) (bits : k.format.Bits) :
    (k.format.decode bits = .nan →
      (toInteger k i).convert (k.value bits) = .error (.invalidValue (.notANumber i))) ∧
    (∀ negative, k.format.decode bits = .infinite negative →
      (toInteger k i).convert (k.value bits) = .error (.invalidValue (.infinite i))) ∧
    ((k.format.decode bits).IsFinite →
      (∀ v, (toInteger k i).convert (k.value bits) = .ok v ↔
        i.toInt? v = some (integerPart (k.format.decode bits).value)) ∧
      ((∃ v, (toInteger k i).convert (k.value bits) = .ok v) ↔
        -(i.bound : ℚ) - 1 < (k.format.decode bits).value ∧
          (k.format.decode bits).value < i.bound) ∧
      ((toInteger k i).convert (k.value bits) =
          .error (.overflow (.float k.numericType.valueKind (k.widen bits) i)) ↔
        ¬i.Holds (integerPart (k.format.decode bits).value))) ∧
    (toInteger k i).convert (k.value bits) =
      guarded k.numericType.valueKind (k.widen bits) i := by
  have hsame := k.same_decode_widen bits
  refine ⟨fun hnan => ?_, fun negative hinfinite => ?_, fun hfinite => ⟨?_, ?_, ?_⟩, ?_⟩
  · rw [toInteger_convert, truncate_of_nan (hsame.eq_nan_iff.mp hnan)]
  · rw [toInteger_convert, truncate_of_infinite (hsame.eq_infinite_iff.mp hinfinite)]
  · exact fun v => toInteger_eq_ok_iff hfinite
  · simp only [toInteger_eq_ok_iff hfinite, ← holds_integerPart_iff]
    constructor
    · rintro ⟨v, hv⟩
      exact IntegerKind.holds_of_toInt? hv
    · intro hrange
      exact ⟨_, IntegerKind.toInt?_word hrange⟩
  · exact toInteger_eq_overflow_iff hfinite
  · rw [toInteger_convert, guarded_eq_truncate]

/-- A fraction below the 32-bit range is cut to its least number, `2 ^ 63` is one too many for
64 bits, and a float that is no number is no integer. -/
theorem toInteger_exact_edges :
    (toInteger .double .int32).convert (.float64 0xC1E0000000100000#64) =
        .ok (.int32 Int32.minValue) ∧
      (toInteger .double .int64).convert (.float64 0x43E0000000000000#64) =
        .error (.overflow (.float .float64 0x43E0000000000000#64 .int64)) ∧
      (toInteger .float .int64).convert (.float32 0x7FC00000#32) =
        .error (.invalidValue (.notANumber .int64)) := by
  have hbelow : FloatingKind.double.format.decode 0xC1E0000000100000#64 =
      .finite true 0x10000000100000 (-21) := by
    decide
  have hbelow_part : integerPart (Number.finite true 0x10000000100000 (-21)).value = -2 ^ 31 :=
    Number.integerPart_value (by decide)
  have habove : FloatingKind.double.format.decode 0x43E0000000000000#64 =
      .finite false 0x10000000000000 11 := by
    decide
  have habove_part : integerPart (Number.finite false 0x10000000000000 11).value = 2 ^ 63 :=
    Number.integerPart_value (by decide)
  obtain ⟨-, -, h32, -⟩ := toInteger_exact .double .int32 0xC1E0000000100000#64
  obtain ⟨-, -, h64, -⟩ := toInteger_exact .double .int64 0x43E0000000000000#64
  refine ⟨((h32 (Number.isFinite_of_eq hbelow)).1 _).mpr ?_,
    (h64 (Number.isFinite_of_eq habove)).2.2.mpr ?_,
    (toInteger_exact .float .int64 0x7FC00000#32).1 (by decide)⟩
  · rw [hbelow, hbelow_part]
    rfl
  · rw [habove, habove_part]
    exact fun h => absurd h.2 (by decide)

end NumericCast

end ColumnCast
