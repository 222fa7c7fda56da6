import ColumnCast.ColumnType.Basic
import ColumnCast.Error
import ColumnCast.Unscaled

/-!
# Conversions between decimals

A `DecimalCast` reads the unscaled value in the form of the source, moves it to the scale of
the target, checks it against the precision of the target and writes it in the target's form.
-/

namespace ColumnCast

/-- The forms in which unscaled values are stored. -/
inductive DecimalForm where
  | int32
  | int64
  | byteArray
  | fixedLenByteArray (length : Nat)
  deriving DecidableEq

namespace DecimalForm

/-- The form that a physical type stores decimals in. -/
def ofPhysical? : Physical → Option DecimalForm
  | .int32 => some int32
  | .int64 => some int64
  | .byteArray => some byteArray
  | .fixedLenByteArray length => some (fixedLenByteArray length.toNat)
  | _ => none

/-- The form of the values that carry the unscaled value. -/
def valueKind : DecimalForm → ValueKind
  | int32 => .int32
  | int64 => .int64
  | byteArray | fixedLenByteArray _ => .bytes

/-- The form in a description. -/
def label : DecimalForm → String
  | int32 => "Int32"
  | int64 => "Int64"
  | byteArray => "ByteArray"
  | fixedLenByteArray length => "FixedLenByteArray(" ++ Numeral.nat length ++ ")"

/-- The unscaled value of a value of this form. -/
def decode (f : DecimalForm) (v : Value) : Except ConversionError Int :=
  match f, v with
  | int32, .int32 n => .ok n.toInt
  | int64, .int64 n => .ok n.toInt
  | byteArray, .bytes bytes => .ok (TwosComplement.decode bytes)
  | fixedLenByteArray _, .bytes bytes => .ok (TwosComplement.decode bytes)
  | form, other => .error (.typeMismatch form.valueKind other.kind)

/-- The value of this form with an unscaled value, unless the form is too narrow. -/
def encode (f : DecimalForm) (unscaled : Int) : Except ConversionError Value :=
  match f with
  | int32 =>
    match Numeral.toInt32? unscaled with
    | some n => .ok (.int32 n)
    | none => .error (.overflow (.unscaled unscaled .int32))
  | int64 =>
    match Numeral.toInt64? unscaled with
    | some n => .ok (.int64 n)
    | none => .error (.overflow (.unscaled unscaled .int64))
  | byteArray => .ok (.bytes (TwosComplement.encode unscaled 0))
  | fixedLenByteArray length =>
    if length < TwosComplement.byteLength unscaled then
      .error (.overflow (.width (TwosComplement.byteLength unscaled) length))
    else .ok (.bytes (TwosComplement.encode unscaled length))

end DecimalForm

/-- A conversion from one decimal type to another. -/
structure DecimalCast where
  source : DecimalForm
  target : DecimalForm
  scaleDelta : Int
  targetPrecision : UInt32
  deriving DecidableEq

namespace DecimalCast

/-- The conversion between two decimal types with their forms. -/
def between (source : DecimalForm) (sourceType : DecimalType) (target : DecimalForm)
    (targetType : DecimalType) : DecimalCast :=
  { source
    target
    scaleDelta := (targetType.scale.toNat : Int) - sourceType.scale.toNat
    targetPrecision := targetType.precision }

/-- The conversion between two column types, if both store decimals. -/
def ofTypes? (source target : ColumnType) : Option DecimalCast :=
  match source.decimal?, target.decimal?, DecimalForm.ofPhysical? source.physical,
    DecimalForm.ofPhysical? target.physical with
  | some sourceType, some targetType, some sourceForm, some targetForm =>
    some (between sourceForm sourceType targetForm targetType)
  | _, _, _, _ => none

/-- The conversion in a description. -/
def label (c : DecimalCast) : String :=
  "DecimalConversion \x7b source: " ++ c.source.label ++ ", target: " ++ c.target.label ++
    ", scale_delta: " ++ Numeral.int c.scaleDelta ++ ", target_precision: " ++
    Numeral.nat c.targetPrecision.toNat ++ " \x7d"

/-- Converts a value. -/
def convert (c : DecimalCast) (v : Value) : Except ConversionError Value := do
  let unscaled ← c.source.decode v
  let rescaled := Unscaled.rescale unscaled c.scaleDelta
  if Unscaled.fitsPrecision rescaled c.targetPrecision.toNat then c.target.encode rescaled
  else throw (.overflow (.precision c.targetPrecision))

end DecimalCast

end ColumnCast
