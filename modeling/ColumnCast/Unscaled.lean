import ColumnCast.Bytes
import ColumnCast.Float.Format
import ColumnCast.Text.Basic

/-!
# Unscaled values

An unscaled value `v` at the scale `s` is the decimal number `v / 10 ^ s`. `FixedPoint.text v s`
writes it: an optional minus sign, the whole part without superfluous zeros and, when `s` is
positive, a point and exactly `s` digits.

Unscaled values travel as big-endian two's complement. `TwosComplement.decode` reads any number of
bytes, none included, and `TwosComplement.encode` writes the fewest bytes that hold the value,
extended by its sign to a least width.

`Unscaled.rescale v d` moves an unscaled value by `d` decimal digits: up by a multiplication, down
by a division that rounds to the nearest integer, a tie going away from zero.
`Unscaled.fitsPrecision v p` decides `|v| < 10 ^ p`. Both settle what loose bounds on the digit
count of the value settle before a power of ten is built.
-/

namespace ColumnCast

/-! ### Fixed-point text -/

namespace FixedPoint

/-- The digits of a natural number, with zeros in front up to `width` digits. -/
def padded (width n : Nat) : List Char :=
  let digits := Numeral.ofNat n
  List.replicate (width - digits.length) '0' ++ digits

/-- `n / 10 ^ scale` without a sign. -/
def magnitude (n scale : Nat) : List Char :=
  if scale = 0 then Numeral.ofNat n
  else
    let digits := padded (scale + 1) n
    let whole := digits.length - scale
    digits.take whole ++ '.' :: digits.drop whole

/-- The text of `v / 10 ^ scale`. -/
def ofInt (v : Int) (scale : Nat) : List Char :=
  if v < 0 then '-' :: magnitude v.natAbs scale else magnitude v.natAbs scale

/-- `ofInt` as a string. -/
def text (v : Int) (scale : Nat) : String :=
  String.ofList (ofInt v scale)

end FixedPoint

/-! ### Two's complement of any width -/

namespace TwosComplement

/-- The value of big-endian two's complement bytes; no bytes are zero. -/
def decode (bytes : Bytes) : Int :=
  Bytes.signed bytes.length (Bytes.littleEndian bytes.reverse)

/-- The number of bits of a value, apart from its sign. -/
def bitLength (v : Int) : Nat :=
  let magnitude := if 0 ≤ v then v.natAbs else (v + 1).natAbs
  if magnitude = 0 then 0 else Nat.log2 magnitude + 1

/-- The fewest bytes whose two's complement patterns include the value; at least one. -/
def byteLength (v : Int) : Nat :=
  bitLength v / 8 + 1

/-- Big-endian two's complement on at least `minLength` bytes. -/
def encode (v : Int) (minLength : Nat) : Bytes :=
  let length := max (byteLength v) minLength
  (Bytes.ofNat length (Bytes.pattern length v)).reverse

end TwosComplement

/-! ### Moving a value between scales -/

namespace Unscaled

/-- The number of bits of the magnitude of a value; zero has none. -/
def bits (v : Int) : Nat :=
  if v = 0 then 0 else Nat.log2 v.natAbs + 1

/-- Loose lower and upper bounds on the number of decimal digits of a value, estimated from its
bit length with about one digit to spare on each side. -/
def digitBounds (v : Int) : Nat × Nat :=
  if bits v = 0 then (0, 1)
  else (DigitCount.floor (bits v - 1), DigitCount.ceil (bits v) + 1)

/-- Division toward zero, then one step by the sign of the dividend when twice the remainder
reaches the divisor in magnitude. For a positive divisor this is the nearest integer, a tie
going away from zero. -/
def roundedQuotient (dividend divisor : Int) : Int :=
  let quotient := dividend.tdiv divisor
  let remainder := dividend.tmod divisor
  if divisor.natAbs ≤ 2 * remainder.natAbs then
    if dividend < 0 then quotient - 1 else quotient + 1
  else quotient

/-- `roundedQuotient`, undefined for the divisor zero. -/
def divide? (dividend divisor : Int) : Option Int :=
  if divisor = 0 then none else some (roundedQuotient dividend divisor)

/-- A digit count as the exponent of a power of ten, at most the greatest 32-bit number. -/
def exponent (digits : Nat) : Nat :=
  min digits (UInt32.size - 1)

/-- Moves a value by `delta` decimal digits. Zero needs no power of ten, and a value with fewer
digits than are dropped rounds to zero without a division. -/
def rescale (v : Int) : Int → Int
  | .ofNat up => if v = 0 then 0 else v * pow10 (exponent up)
  | .negSucc k =>
    let down := k + 1
    if (digitBounds v).2 < down then 0 else roundedQuotient v (pow10 (exponent down))

/-- Decides whether a value has at most `precision` digits. The power of ten is built only when
the bounds on the digit count leave it open. -/
def fitsPrecision (v : Int) (precision : Nat) : Bool :=
  if v = 0 then true
  else if (digitBounds v).2 ≤ precision then true
  else if precision < (digitBounds v).1 then false
  else v.natAbs < pow10 (exponent precision)

end Unscaled

end ColumnCast
