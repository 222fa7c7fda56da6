/-!
# Binary floating-point formats

A `FloatFormat` is a pair of field widths. Its bit patterns are decoded into a `Number`: not a
number, an infinity, or a sign with a significand and a power of two. In the other direction
`ofRatio` rounds any fraction to the nearest number of the format, a tie going to the even
pattern, and to an infinity beyond the largest finite number. All arithmetic is on naturals and
integers, so every statement about rounding is one about fractions.

A number of `b` bits has about `b * log10 2` decimal digits. `DigitCount.estimate` makes this
product in doubles: the bit count becomes a double, and its product with the double nearest to
`log10 2` is rounded once more.
-/

namespace ColumnCast

/-- Two to the `k`-th power. -/
abbrev pow2 (k : Nat) : Nat := Nat.pow 2 k

/-- Ten to the `k`-th power. -/
abbrev pow10 (k : Nat) : Nat := Nat.pow 10 k

/-- The widths of the two magnitude fields of a binary floating-point format. -/
structure FloatFormat where
  fractionBits : Nat
  exponentBits : Nat

/-- What a bit pattern stands for; a finite number is `± significand * 2 ^ exponent`. -/
inductive Number where
  | nan
  | infinite (negative : Bool)
  | finite (negative : Bool) (significand : Nat) (exponent : Int)
  deriving DecidableEq

namespace FloatFormat

/-- The 32-bit format. -/
def single : FloatFormat := ⟨23, 8⟩

/-- The 64-bit format. -/
def double : FloatFormat := ⟨52, 11⟩

/-- The number of bits below the sign. -/
def magnitudeBits (f : FloatFormat) : Nat :=
  f.exponentBits + f.fractionBits

/-- A bit pattern of the format, the sign on top. -/
abbrev Bits (f : FloatFormat) := BitVec (f.magnitudeBits + 1)

/-- The power of two that the least positive number of the format is. -/
def minExponent (f : FloatFormat) : Int :=
  2 - (pow2 (f.exponentBits - 1) : Int) - f.fractionBits

/-- The magnitude pattern of the infinities. -/
def infinityMagnitude (f : FloatFormat) : Nat :=
  (pow2 f.exponentBits - 1) * pow2 f.fractionBits

/-- The pattern with this sign and magnitude. -/
def ofMagnitude (f : FloatFormat) (negative : Bool) (magnitude : Nat) : f.Bits :=
  BitVec.ofNat _ ((if negative then pow2 f.magnitudeBits else 0) + magnitude)

/-- The positive pattern that stands for no number. -/
def notANumber (f : FloatFormat) : f.Bits :=
  f.ofMagnitude false (f.infinityMagnitude + pow2 (f.fractionBits - 1))

/-- The infinity of this sign. -/
def infinity (f : FloatFormat) (negative : Bool) : f.Bits :=
  f.ofMagnitude negative f.infinityMagnitude

/-- What a bit pattern stands for. -/
def decode (f : FloatFormat) (bits : f.Bits) : Number :=
  let negative := bits.msb
  let magnitude := bits.toNat % pow2 f.magnitudeBits
  let field := magnitude / pow2 f.fractionBits
  let fraction := magnitude % pow2 f.fractionBits
  if f.infinityMagnitude < magnitude then .nan
  else if magnitude = f.infinityMagnitude then .infinite negative
  else if field = 0 then .finite negative fraction f.minExponent
  else .finite negative (pow2 f.fractionBits + fraction) (f.minExponent + field - 1)

end FloatFormat

/-! ### Fractions -/

/-- The fraction `significand * 2 ^ exponent` as numerator and denominator. -/
def binaryRatio (significand : Nat) (exponent : Int) : Nat × Nat :=
  (significand * pow2 exponent.toNat, pow2 (-exponent).toNat)

/-- The integer nearest to `num / den`, a tie going to the even one. -/
def nearestEven (num den : Nat) : Nat :=
  let quotient := num / den
  let remainder := num % den
  if 2 * remainder < den then quotient
  else if den < 2 * remainder then quotient + 1
  else quotient + quotient % 2

/-- The greatest `k` with `2 ^ k ≤ num / den`, for positive `num` and `den`. -/
def floorLog2 (num den : Nat) : Int :=
  let k : Int := (Nat.log2 num : Int) - Nat.log2 den
  if den * pow2 k.toNat ≤ num * pow2 (-k).toNat then k else k - 1

namespace FloatFormat

/-- The spacing, as a power of two, of the format's numbers around `num / den`. -/
def quantum (f : FloatFormat) (num den : Nat) : Int :=
  max f.minExponent (floorLog2 num den - f.fractionBits)

/-- The magnitude pattern of the number nearest to `num / den`. -/
def roundMagnitude (f : FloatFormat) (num den : Nat) : Nat :=
  if num = 0 then 0
  else
    let q := f.quantum num den
    let steps := nearestEven (num * pow2 (-q).toNat) (den * pow2 q.toNat)
    min f.infinityMagnitude (steps + (q - f.minExponent).toNat * pow2 f.fractionBits)

/-- The number of the format nearest to `± num / den`. -/
def ofRatio (f : FloatFormat) (negative : Bool) (num den : Nat) : f.Bits :=
  f.ofMagnitude negative (f.roundMagnitude num den)

/-- The number of the format nearest to an integer. -/
def ofInt (f : FloatFormat) (n : Int) : f.Bits :=
  f.ofRatio (n < 0) n.natAbs 1

/-- The pattern of the format nearest to what a decoded pattern stands for. -/
def ofNumber (f : FloatFormat) : Number → f.Bits
  | .nan => f.notANumber
  | .infinite negative => f.infinity negative
  | .finite negative significand exponent =>
    let (num, den) := binaryRatio significand exponent
    f.ofRatio negative num den

/-- The largest finite number of the format, an integer in every format used here. -/
def maxFinite (f : FloatFormat) : Nat :=
  match binaryRatio (pow2 (f.fractionBits + 1) - 1)
      (f.minExponent + (pow2 f.exponentBits - 3 : Nat)) with
  | (num, den) => num / den

end FloatFormat

namespace Number

/-- The integer part of a finite number: its fraction digits are dropped. -/
def truncate? : Number → Option Int
  | .finite negative significand exponent =>
    let (num, den) := binaryRatio significand exponent
    let whole : Int := (num / den : Nat)
    some (if negative then -whole else whole)
  | _ => none

/-- The greatest integer that does not exceed a finite number. -/
def floor? : Number → Option Int
  | .finite negative significand exponent =>
    let (num, den) := binaryRatio significand exponent
    some (if negative then -((num + den - 1) / den : Nat) else (num / den : Nat))
  | _ => none

/-- The least integer that a finite number does not exceed. -/
def ceil? : Number → Option Int
  | .finite negative significand exponent =>
    let (num, den) := binaryRatio significand exponent
    some (if negative then -(num / den : Nat) else ((num + den - 1) / den : Nat))
  | _ => none

/-- A finite number is **beyond** a bound when its magnitude is greater. -/
def beyond (bound : Nat) : Number → Bool
  | .finite _ significand exponent =>
    let (num, den) := binaryRatio significand exponent
    bound * den < num
  | _ => false

end Number

/-- A bit pattern of the 32-bit format. -/
abbrev Binary32 := FloatFormat.single.Bits

/-- A bit pattern of the 64-bit format. -/
abbrev Binary64 := FloatFormat.double.Bits

namespace Binary32

/-- The same number in the 64-bit format. -/
def widen (bits : Binary32) : Binary64 :=
  FloatFormat.double.ofNumber (FloatFormat.single.decode bits)

end Binary32

namespace Binary64

/-- The nearest number of the 32-bit format. -/
def narrow (bits : Binary64) : Binary32 :=
  FloatFormat.single.ofNumber (FloatFormat.double.decode bits)

end Binary64

/-! ### Decimal digits by bit count -/

namespace DigitCount

/-- The double nearest to the common logarithm of two, in units of `2 ^ (-54)`. -/
def log10Of2 : Nat := 0x134413509F79FF

/-- The decimal digits that so many bits are worth, as a double. -/
def estimate (bits : Nat) : Number :=
  match FloatFormat.double.decode (FloatFormat.double.ofInt bits) with
  | .finite negative significand exponent =>
    let (num, den) := binaryRatio significand exponent
    FloatFormat.double.decode
      (FloatFormat.double.ofRatio negative (num * log10Of2) (den * pow2 54))
  | other => other

/-- The estimate without its fraction. -/
def floor (bits : Nat) : Nat :=
  ((estimate bits).floor?.getD 0).toNat

/-- The estimate, rounded up to an integer. -/
def ceil (bits : Nat) : Nat :=
  ((estimate bits).ceil?.getD 0).toNat

end DigitCount

end ColumnCast
