import ColumnCast.Cast.Binary
import ColumnCast.Cast.Decimal
import ColumnCast.Cast.Int96
import ColumnCast.Cast.Numeric
import ColumnCast.ColumnType.Key

/-!
# Converters

A `Converter` converts the values of one column type to another. `validate` decides whether a
pair of types can be converted: the pair of keys is on the allow-list, and a decimal that gains
digits after the point still fits the precision of its target. `Converter.build` finds the
converter of a pair that passes.
-/

namespace ColumnCast

/-! ### Validation -/

/-- The precision that a decimal needs after its scale has grown to that of the target. -/
def requiredPrecision (source target : DecimalType) : Nat :=
  source.precision.toNat + (target.scale.toNat - source.scale.toNat)

/-- The decimals of a pair are compatible: a scale that grows leaves room for all digits. -/
def validateScales (source target : DecimalType) : Except ConversionError Unit :=
  if source.scale < target.scale ∧
      target.precision.toNat < requiredPrecision source target then
    .error (.scaleIncompatibility source.scale target.scale (requiredPrecision source target)
      target.precision)
  else .ok ()

/-- Decides whether values of the source type can be converted to the target type. -/
def validate (source : ColumnType) (target : TargetType) : Except ConversionError Unit :=
  if isAllowed source.key target.key then
    match source.decimal?, target.decimal? with
    | some s, some t => validateScales s t
    | _, _ => .ok ()
  else .error (.unsupportedConversion source.key.text target.key.text)

/-! ### Converters -/

/-- A conversion of the values of a column. -/
inductive Converter where
  | numeric (cast : NumericCast)
  | binary (cast : BinaryCast)
  | decimal (cast : DecimalCast)
  | int96 (cast : Int96Cast)
  deriving DecidableEq

namespace Converter

/-- The family of a converter. -/
def family : Converter → String
  | numeric _ => "numeric"
  | binary _ => "binary"
  | decimal _ => "decimal"
  | int96 _ => "int96"

/-- The converter in a description. -/
def label : Converter → String
  | numeric cast => "Numeric(" ++ cast.label ++ ")"
  | binary cast => "Binary(" ++ cast.label ++ ")"
  | decimal cast => "Decimal(" ++ cast.label ++ ")"
  | int96 cast => "Int96(" ++ cast.label ++ ")"

/-- Converts a value; null stays null. -/
def convert (c : Converter) (v : Value) : Except ConversionError Value :=
  match v with
  | .null => .ok .null
  | v =>
    match c with
    | numeric cast => cast.convert v
    | binary cast => cast.convert v
    | decimal cast => cast.convert v
    | int96 cast => cast.convert v

/-- There is no converter between these types. -/
def missing (source target : ColumnType) : ConversionError :=
  .noConverter source.text target.text

/-- The converter between two types, chosen by how they are stored and whether one of them is a
decimal. Whether the pair is allowed is not asked here. -/
def dispatch (source target : ColumnType) : Except ConversionError Converter :=
  let orMissing {α : Type} (wrap : α → Converter) : Option α → Except ConversionError Converter
    | some cast => .ok (wrap cast)
    | none => .error (missing source target)
  let eitherDecimal := source.logical.isDecimal || target.logical.isDecimal
  if source.physical = .int96 ∧ target.physical = .int64 then
    match target.logical.timestampUnit? with
    | some unit => .ok (.int96 ⟨unit⟩)
    | none => .error (.unsupportedTimestamp target.logical.text)
  else if eitherDecimal then orMissing .decimal (DecimalCast.ofTypes? source target)
  else if source.physical.isNumeric && target.physical.isNumeric then
    orMissing .numeric (NumericCast.ofPhysical? source.physical target.physical)
  else if source.physical.isBinary && target.physical.isBinary then
    orMissing .binary (BinaryCast.ofTypes? source target)
  else .error (missing source target)

/-- The converter between two types that pass validation. -/
def build (source : ColumnType) (target : TargetType) : Except ConversionError Converter := do
  validate source target
  dispatch source target.toColumnType

end Converter

end ColumnCast
