import ColumnCast.Bytes
import ColumnCast.ColumnType.Fault
import ColumnCast.Error

/-!
# Conversions between byte sequences

A `BinaryCast` changes the length of byte sequences or gives them a text meaning. Lengths grow
by zero bytes at the end, and only zero bytes can be cut off.
-/

namespace ColumnCast

/-- A conversion of byte sequences. -/
inductive BinaryCast where
  /-- A byte array becomes one of fixed length, zero bytes filling it up. -/
  | padToFixed (length : Nat)
  /-- A byte array of fixed length becomes one of any length. -/
  | unfix
  /-- The fixed length changes; only zero bytes may be cut off. -/
  | resize (length : Nat)
  /-- The bytes become text and must be well-formed. -/
  | validateUtf8
  /-- Nothing changes. -/
  | passThrough
  deriving DecidableEq

namespace BinaryCast

/-- The conversion between two column types, if both store byte sequences. -/
def ofTypes? (source target : ColumnType) : Option BinaryCast :=
  let becomesText : Bool := target.logical = .string ∧ source.logical ≠ .string
  match source.physical, target.physical with
  | .byteArray, .fixedLenByteArray length => some (.padToFixed length.toNat)
  | .fixedLenByteArray _, .byteArray => some (if becomesText then .validateUtf8 else .unfix)
  | .byteArray, .byteArray => some (if becomesText then .validateUtf8 else .passThrough)
  | .fixedLenByteArray _, .fixedLenByteArray length => some (.resize length.toNat)
  | _, _ => none

/-- The conversion in a description. -/
def label : BinaryCast → String
  | padToFixed length => "PadToFixed(" ++ Numeral.nat length ++ ")"
  | unfix => "Unfix"
  | resize length => "Resize(" ++ Numeral.nat length ++ ")"
  | validateUtf8 => "ValidateUtf8"
  | passThrough => "PassThrough"

/-- Zero bytes at the end up to the length. -/
def padRight (length : Nat) (bytes : Bytes) : Bytes :=
  bytes ++ List.replicate (length - bytes.length) 0

/-- Converts a byte sequence. -/
def convertBytes (c : BinaryCast) (bytes : Bytes) : Except ConversionError Bytes :=
  match c with
  | .padToFixed length =>
    if length < bytes.length then .error (.overflow (.padding bytes.length length))
    else .ok (padRight length bytes)
  | .unfix | .passThrough => .ok bytes
  | .resize length =>
    if (bytes.drop length).any (· ≠ 0) then .error (.overflow .truncation)
    else .ok (padRight length (bytes.take length))
  | .validateUtf8 =>
    if (Utf8.decode? bytes).isSome then .ok bytes else .error (.invalidValue .malformedText)

/-- Converts a value; one that is no byte sequence is refused. -/
def convert (c : BinaryCast) : Value → Except ConversionError Value
  | .bytes bytes => (c.convertBytes bytes).map .bytes
  | other => .error (.typeMismatch .bytes other.kind)

end BinaryCast

end ColumnCast
