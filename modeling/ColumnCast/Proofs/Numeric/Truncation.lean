import ColumnCast.Proofs.Numeric.Narrowing
import ColumnCast.Proofs.Text.Numeral

/-!
# From floating-point numbers to integers

A finite floating-point number becomes its integer part, exactly when the integer type holds it
(`NumericCast.toInteger_eq_ok_iff`); for a 32-bit type these are the numbers strictly between
`-2 ^ 31 - 1` and `2 ^ 31` (`holds_integerPart_iff`). Otherwise it is an overflow
(`NumericCast.toInteger_eq_overflow_iff`).
-/

namespace ColumnCast

open FloatFormat (single double)

/-! ### Integer types -/

namespace IntegerKind

/-- The number type of an integer type. -/
def numericType : IntegerKind → NumericType
  | int32 => .int32
  | int64 => .int64

/-- The number of bits below the sign of an integer type. -/
def bits : IntegerKind → ℕ
  | int32 => 31
  | int64 => 63

/-- The first integer above the range of an integer type. -/
def bound (i : IntegerKind) : ℤ :=
  2 ^ i.bits

/-- The integers in the range of an integer type. -/
def Holds (i : IntegerKind) (n : ℤ) : Prop :=
  -i.bound ≤ n ∧ n < i.bound

/-- The integer that a value of an integer type is. -/
def toInt? : IntegerKind → Value → Option ℤ
  | int32, .int32 n => some n.toInt
  | int64, .int64 n => some n.toInt
  | _, _ => none

/-- The value of an integer type with the last bits of an integer. -/
def word : IntegerKind → ℤ → Value
  | int32, n => .int32 (Int32.ofInt n)
  | int64, n => .int64 (Int64.ofInt n)

variable {i : IntegerKind} {v w : Value} {n : ℤ}

private theorem bound_pos (i : IntegerKind) : 0 < i.bound :=
  pow_pos (by norm_num) _

/-- A value of an integer type is in its range. -/
theorem holds_of_toInt? (h : i.toInt? v = some n) : i.Holds n := by
  cases i <;> cases v <;> cases h
  case int32.int32.refl m => exact ⟨m.le_toInt, m.toInt_lt⟩
  case int64.int64.refl m => exact ⟨m.le_toInt, m.toInt_lt⟩

/-- An integer in range is its own last bits. -/
theorem toInt?_word (h : i.Holds n) : i.toInt? (i.word n) = some n := by
  cases i with
  | int32 => exact congrArg some (Int32.toInt_ofInt_of_le h.1 h.2)
  | int64 => exact congrArg some (Int64.toInt_ofInt_of_le h.1 h.2)

/-- An integer is one value of an integer type. -/
private theorem eq_of_toInt? (hv : i.toInt? v = some n) (hw : i.toInt? w = some n) : v = w := by
  cases i <;> cases v <;> cases hv <;> cases w <;>
    simp only [toInt?, Option.some.injEq, reduceCtorEq] at hw
  case int32.int32.refl.int32 a b => rw [Int32.toInt_inj.mp hw]
  case int64.int64.refl.int64 a b => rw [Int64.toInt_inj.mp hw]

end IntegerKind

/-! ### Floating-point types -/

/-- The two floating-point types. -/
inductive FloatingKind where
  | float
  | double
  deriving DecidableEq

namespace FloatingKind

/-- The format of the patterns of a floating-point type. -/
def format : FloatingKind → FloatFormat
  | float => single
  | double => FloatFormat.double

/-- The number type of a floating-point type. -/
def numericType : FloatingKind → NumericType
  | float => .float
  | double => .double

/-- The value that a pattern of a floating-point type is. -/
def value : (k : FloatingKind) → k.format.Bits → Value
  | float, bits => .float32 bits
  | double, bits => .float64 bits

/-- The double with the number of a pattern. -/
def widen : (k : FloatingKind) → k.format.Bits → Binary64
  | float, bits => Binary32.widen bits
  | double, bits => bits

variable {k : FloatingKind}

theorem two_le_exponentBits (k : FloatingKind) : 2 ≤ k.format.exponentBits := by
  cases k <;> decide

theorem fractionBits_pos (k : FloatingKind) : 0 < k.format.fractionBits := by
  cases k <;> decide

theorem maxExponent_nonneg (k : FloatingKind) : 0 ≤ k.format.maxExponent := by
  cases k <;> decide

/-- The bounds of the integer types are powers of two that both formats have room for. -/
private theorem bits_le (k : FloatingKind) (i : IntegerKind) :
    i.bits ≤ 2 ^ (k.format.exponentBits - 1) - 1 := by
  cases k <;> cases i <;> decide

theorem represents_bound (k : FloatingKind) (i : IntegerKind) : k.format.Represents i.bound := by
  have hbound : (i.bound : ℚ) = 2 ^ i.bits := by
    rw [IntegerKind.bound, Int.cast_pow, Int.cast_ofNat]
  rw [hbound]
  exact FloatFormat.represents_two_pow k.two_le_exponentBits (k.bits_le i)

theorem represents_neg_bound (k : FloatingKind) (i : IntegerKind) :
    k.format.Represents (-i.bound : ℤ) := by
  rw [Int.cast_neg]
  exact (k.represents_bound i).neg

theorem same_decode_widen (bits : k.format.Bits) :
    (k.format.decode bits).Same (FloatFormat.double.decode (k.widen bits)) := by
  cases k with
  | float => exact Binary32.same_decode_widen bits
  | double => exact Number.Same.refl _

end FloatingKind

/-! ### The integer part -/

/-- The integer part of a fraction: what remains when it is cut towards zero. -/
def integerPart (x : ℚ) : ℤ :=
  if 0 ≤ x then ⌊x⌋ else ⌈x⌉

theorem integerPart_intCast (n : ℤ) : integerPart n = n := by
  rw [integerPart, Int.floor_intCast, Int.ceil_intCast, ite_self]

/-- The range of an integer type, extended by what is cut on its two sides. -/
theorem holds_integerPart_iff {i : IntegerKind} {x : ℚ} :
    i.Holds (integerPart x) ↔ -(i.bound : ℚ) - 1 < x ∧ x < i.bound := by
  have hpos := i.bound_pos
  have hposQ : (0 : ℚ) < i.bound := by exact_mod_cast hpos
  rw [IntegerKind.Holds, integerPart]
  split_ifs with hx
  · have hfloor := Int.floor_nonneg.mpr hx
    rw [Int.floor_lt]
    exact and_congr_left fun _ => iff_of_true (by omega) (by linarith)
  · have hlow : -i.bound ≤ ⌈x⌉ ↔ -(i.bound : ℚ) - 1 < x := by
      rw [← Int.sub_one_lt_iff, Int.lt_ceil]
      push_cast
      rfl
    have hceil : ⌈x⌉ ≤ 0 := Int.ceil_le.mpr (by rw [Int.cast_zero]; linarith)
    rw [hlow]
    exact and_congr_right fun _ => iff_of_true (by omega) (by linarith)

theorem integerPart_natCast_div (num den : ℕ) :
    integerPart ((num : ℚ) / den) = (num / den : ℕ) := by
  have hnonneg : (0 : ℚ) ≤ (num : ℚ) / den := by positivity
  rw [integerPart, if_pos hnonneg, ← Int.cast_natCast num, Rat.floor_intCast_div_natCast,
    Int.natCast_ediv]

private theorem integerPart_neg (x : ℚ) : integerPart (-x) = -integerPart x := by
  rcases lt_trichotomy x 0 with hneg | rfl | hpos
  · rw [integerPart, integerPart, if_pos (by linarith), if_neg (by linarith), Int.floor_neg]
  · rfl
  · rw [integerPart, integerPart, if_neg (by linarith), if_pos hpos.le, Int.ceil_neg]

theorem integerPart_sign_mul (negative : Bool) (x : ℚ) :
    integerPart (Number.sign negative * x) = Number.sign negative * integerPart x := by
  cases negative
  · rw [Number.sign_false_mul, Number.sign, if_neg Bool.false_ne_true, one_mul]
  · rw [Number.sign_true_mul, integerPart_neg, Number.sign, if_pos rfl, neg_one_mul]

private theorem Number.truncate?_finite (negative : Bool) (significand : ℕ) (exponent : ℤ) :
    (finite negative significand exponent).truncate? =
      some (integerPart (finite negative significand exponent).value) := by
  rw [value_finite, integerPart_sign_mul, ← binaryRatio_div, integerPart_natCast_div]
  cases negative
  · exact congrArg some (one_mul _).symm
  · exact congrArg some (neg_one_mul _).symm

theorem Number.integerPart_value {number : Number} {n : ℤ} (h : number.truncate? = some n) :
    integerPart number.value = n := by
  cases number with
  | nan => cases h
  | infinite => cases h
  | finite negative significand exponent =>
    rw [truncate?_finite] at h
    exact Option.some.inj h

/-! ### The conversion -/

namespace NumericCast

variable {source : ValueKind} {bits : Binary64} {i : IntegerKind} {k : FloatingKind} {n : ℤ}

private theorem ofInteger?_of_holds (h : i.Holds n) : ofInteger? n i = some (i.word n) := by
  cases i with
  | int32 =>
    have hn : (Int32.ofInt n).toInt = n := Int32.toInt_ofInt_of_le h.1 h.2
    rw [ofInteger?, Numeral.toInt32?_eq_some_iff.mpr hn]
    rfl
  | int64 =>
    have hn : (Int64.ofInt n).toInt = n := Int64.toInt_ofInt_of_le h.1 h.2
    rw [ofInteger?, Numeral.toInt64?_eq_some_iff.mpr hn]
    rfl

private theorem ofInteger?_of_not_holds (h : ¬i.Holds n) : ofInteger? n i = none := by
  cases i with
  | int32 => rw [ofInteger?, Numeral.toInt32?_eq_none_iff.mpr h, Option.map_none]
  | int64 => rw [ofInteger?, Numeral.toInt64?_eq_none_iff.mpr h, Option.map_none]

theorem truncate_of_nan (h : double.decode bits = .nan) :
    truncate source bits i = .error (.invalidValue (.notANumber i)) := by
  simp only [truncate, h, Number.truncate?, if_true]

theorem truncate_of_infinite {negative : Bool} (h : double.decode bits = .infinite negative) :
    truncate source bits i = .error (.invalidValue (.infinite i)) := by
  simp only [truncate, h, Number.truncate?, reduceCtorEq, if_false]

/-- An integer part in the range of the integer type is the result. -/
theorem truncate_of_holds (h : (double.decode bits).IsFinite)
    (hrange : i.Holds (integerPart (double.decode bits).value)) :
    truncate source bits i = .ok (i.word (integerPart (double.decode bits).value)) := by
  obtain ⟨negative, significand, exponent, hdecode⟩ := h.exists_eq
  have hword := ofInteger?_of_holds hrange
  rw [hdecode] at hword ⊢
  simp only [truncate, hdecode, Number.truncate?_finite, hword]

theorem truncate_of_not_holds (h : (double.decode bits).IsFinite)
    (hrange : ¬i.Holds (integerPart (double.decode bits).value)) :
    truncate source bits i = .error (.overflow (.float source bits i)) := by
  obtain ⟨negative, significand, exponent, hdecode⟩ := h.exists_eq
  have hnone := ofInteger?_of_not_holds hrange
  rw [hdecode] at hnone
  simp only [truncate, hdecode, Number.truncate?_finite, hnone]

/-- The conversion of a floating-point type to an integer type. -/
def toInteger (k : FloatingKind) (i : IntegerKind) : NumericCast :=
  ⟨k.numericType, i.numericType, by cases k <;> cases i <;> decide⟩

theorem toInteger_convert (k : FloatingKind) (i : IntegerKind) (bits : k.format.Bits) :
    (toInteger k i).convert (k.value bits) =
      truncate k.numericType.valueKind (k.widen bits) i := by
  cases k <;> cases i <;> rfl

section Finite

variable {bits : k.format.Bits} (h : (k.format.decode bits).IsFinite)
include h

/-- A finite number becomes the value that is its integer part. -/
theorem toInteger_eq_ok_iff {v : Value} :
    (toInteger k i).convert (k.value bits) = .ok v ↔
      i.toInt? v = some (integerPart (k.format.decode bits).value) := by
  have hsame := k.same_decode_widen bits
  have hfinite := hsame.isFinite_iff.mp h
  rw [toInteger_convert, hsame.value_eq]
  by_cases hrange : i.Holds (integerPart (double.decode (k.widen bits)).value)
  · rw [truncate_of_holds hfinite hrange, Except.ok.injEq]
    constructor
    · rintro rfl
      exact IntegerKind.toInt?_word hrange
    · exact IntegerKind.eq_of_toInt? (IntegerKind.toInt?_word hrange)
  · rw [truncate_of_not_holds hfinite hrange]
    exact iff_of_false nofun fun hv => hrange (IntegerKind.holds_of_toInt? hv)

/-- It is an overflow exactly when its integer part is out of range. -/
theorem toInteger_eq_overflow_iff :
    (toInteger k i).convert (k.value bits) =
        .error (.overflow (.float k.numericType.valueKind (k.widen bits) i)) ↔
      ¬i.Holds (integerPart (k.format.decode bits).value) := by
  have hsame := k.same_decode_widen bits
  have hfinite := hsame.isFinite_iff.mp h
  rw [toInteger_convert, hsame.value_eq]
  constructor
  · intro herror hrange
    rw [truncate_of_holds hfinite hrange] at herror
    cases herror
  · exact truncate_of_not_holds hfinite

end Finite

end NumericCast

end ColumnCast
