import ColumnCast.ColumnType.Basic
import ColumnCast.Error

/-!
# Twelve-byte timestamps

The physical type `INT96` holds an instant in twelve bytes, both numbers with the least
significant byte first: eight bytes of nanoseconds since midnight and four bytes of the Julian
day. `Int96.decode` reads the nanoseconds since 1970 and `Int96.encode` writes them; an
`Int96Cast` turns them into a timestamp of a given unit.
-/

namespace ColumnCast

namespace Int96

/-- The number of bytes of an instant. -/
def size : Nat := 12

/-- The Julian day of 1970-01-01. -/
def epochDay : Int := 2440588

/-- Nanoseconds in a day. -/
def nanosPerDay : Int := 86400000000000

/-- The nanoseconds since midnight that the first eight bytes hold. -/
def nanosOfDay (bytes : Bytes) : Int :=
  Bytes.signed 8 (Bytes.littleEndian (bytes.take 8))

/-- The Julian day that the last four bytes hold. -/
def julianDay (bytes : Bytes) : Int :=
  Bytes.signed 4 (Bytes.littleEndian (bytes.drop 8))

/-- The nanoseconds since 1970 that twelve bytes hold. -/
def decode (bytes : Bytes) : Except ConversionError Int64 :=
  if bytes.length ≠ size then .error (.invalidValue (.int96Length bytes.length))
  else
    let nanos := nanosOfDay bytes
    let day := julianDay bytes
    if nanos < 0 ∨ nanosPerDay ≤ nanos then .error (.invalidValue (.nanosOfDay nanos))
    else
      match Numeral.toInt64? ((day - epochDay) * nanosPerDay + nanos) with
      | some total => .ok total
      | none => .error (.overflow (.julianDay day))

/-- The twelve bytes of an instant. -/
def encode (nanos : Int64) : Bytes :=
  let day := nanos.toInt / nanosPerDay + epochDay
  Bytes.ofNat 8 (nanos.toInt % nanosPerDay).toNat ++ Bytes.ofNat 4 (Bytes.pattern 4 day)

end Int96

namespace TimeUnit

/-- The number of nanoseconds in a unit. -/
def nanosPerUnit : TimeUnit → Int
  | nanos => 1
  | micros => 1000
  | millis => 1000000

/-- Nanoseconds in a unit, rounded to the nearest, a tie going away from zero. -/
def scaleNanos (unit : TimeUnit) (nanos : Int64) : Int64 :=
  let divisor := unit.nanosPerUnit
  let quotient := nanos.toInt.tdiv divisor
  let remainder := nanos.toInt.tmod divisor
  Int64.ofInt
    (if divisor ≤ 2 * (remainder.natAbs : Int) then quotient + nanos.toInt.sign else quotient)

/-- The unit in a description. -/
def label : TimeUnit → String
  | nanos => "Nanos"
  | micros => "Micros"
  | millis => "Millis"

end TimeUnit

/-- A conversion of twelve-byte timestamps to timestamps that count a unit. -/
structure Int96Cast where
  unit : TimeUnit
  deriving DecidableEq

namespace Int96Cast

/-- The conversion in a description. -/
def label (c : Int96Cast) : String :=
  "Int96Conversion \x7b unit: " ++ c.unit.label ++ " \x7d"

/-- Converts a value; one that is no byte sequence is refused. -/
def convert (c : Int96Cast) : Value → Except ConversionError Value
  | .bytes bytes => (Int96.decode bytes).map fun nanos => .int64 (c.unit.scaleNanos nanos)
  | other => .error (.typeMismatch .bytes other.kind)

end Int96Cast

end ColumnCast
