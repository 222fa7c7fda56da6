import ColumnCast.ColumnType.Fault
import ColumnCast.Float.Text
import ColumnCast.Value.Basic

/-!
# Conversion errors

A `ConversionError` says why a type is refused, why a pair of types cannot be converted or why
a value does not survive its conversion. Each error is a cause; `kind` classifies it and
`message` puts it into words.
-/

namespace ColumnCast

/-! ### Values that do not fit -/

/-- The two integer types that numbers are converted to. -/
inductive IntegerKind where
  | int32
  | int64
  deriving DecidableEq

namespace IntegerKind

/-- The name of an integer type in messages. -/
def name : IntegerKind → String
  | int32 => "int32"
  | int64 => "int64"

end IntegerKind

/-- Why a value is outside the range of its target. -/
inductive Overflow where
  | integer (value : Int64)
  | double (value : Binary64)
  | float (source : ValueKind) (value : Binary64) (target : IntegerKind)
  | precision (limit : UInt32)
  | unscaled (value : Int) (target : IntegerKind)
  | width (required length : Nat)
  | padding (size length : Nat)
  | truncation
  | julianDay (day : Int)
  | stated (text : String)
  deriving DecidableEq

namespace Overflow

/-- The overflow in words. -/
def message : Overflow → String
  | integer value => "int64 value " ++ Numeral.int value.toInt ++ " overflows int32 range"
  | double value => "float64 value " ++ FloatFormat.double.text value ++ " overflows float32 range"
  | float source value target =>
    source.name ++ " value " ++ FloatFormat.double.text value ++ " overflows " ++ target.name ++
      " range"
  | precision limit => "decimal value exceeds precision " ++ Numeral.nat limit.toNat
  | unscaled value target =>
    "decimal value " ++ Numeral.int value ++ " overflows " ++ target.name ++ " range"
  | width required length =>
    "decimal value requires " ++ Numeral.nat required ++
      " bytes, but FIXED_LEN_BYTE_ARRAY length is " ++ Numeral.nat length
  | padding size length =>
    "byte array length " ++ Numeral.nat size ++ " exceeds FIXED_LEN_BYTE_ARRAY length " ++
      Numeral.nat length
  | truncation => "FIXED_LEN_BYTE_ARRAY truncation would lose non-zero data"
  | julianDay day =>
    "INT96 Julian day " ++ Numeral.int day ++ " is outside the int64 nanosecond range"
  | stated text => text

end Overflow

/-! ### Values that make no sense -/

/-- What a literal was read as when it failed. -/
inductive LiteralKind where
  | boolean
  | int32
  | int64
  | float
  | double
  | int96
  | bytes
  deriving DecidableEq

namespace LiteralKind

/-- The name of the expected form in messages. -/
def name : LiteralKind → String
  | boolean => "boolean"
  | int32 => "int32"
  | int64 => "int64"
  | float => "float"
  | double => "double"
  | int96 => "INT96 hex"
  | bytes => "hex bytes"

end LiteralKind

/-- Why a value has no counterpart in the target type. -/
inductive Invalidity where
  | notANumber (target : IntegerKind)
  | infinite (target : IntegerKind)
  | malformedText
  | int96Length (size : Nat)
  | nanosOfDay (nanos : Int)
  | literal (text : String) (expected : LiteralKind)
  | stated (text : String)
  deriving DecidableEq

namespace Invalidity

/-- The fault in words. -/
def message : Invalidity → String
  | notANumber target => "cannot convert NaN to " ++ target.name
  | infinite target => "cannot convert Inf to " ++ target.name
  | malformedText => "byte array contains invalid UTF-8 and cannot be converted to STRING"
  | int96Length size => "INT96 must be 12 bytes, got " ++ Numeral.nat size
  | nanosOfDay nanos => "invalid nanoseconds of day: " ++ Numeral.int nanos
  | literal text expected => "Failed to parse '" ++ text ++ "' as " ++ expected.name
  | stated text => text

end Invalidity

/-! ### Errors -/

/-- The classes of conversion errors. -/
inductive ErrorKind where
  | format
  | unknownType
  | constraint
  | unsupportedConversion
  | scaleIncompatibility
  | typeMismatch
  | overflow
  | invalidValue
  deriving DecidableEq

namespace ErrorKind

/-- The name of a class. -/
def name : ErrorKind → String
  | format => "Format"
  | unknownType => "UnknownType"
  | constraint => "Constraint"
  | unsupportedConversion => "UnsupportedConversion"
  | scaleIncompatibility => "ScaleIncompatibility"
  | typeMismatch => "TypeMismatch"
  | overflow => "Overflow"
  | invalidValue => "InvalidValue"

end ErrorKind

/-- Why a type, a pair of types or a value is refused. -/
inductive ConversionError where
  | specification (text : String) (fault : SpecFault)
  | unsupportedConversion (source target : String)
  | noConverter (source target : String)
  | unsupportedTimestamp (logical : String)
  | scaleIncompatibility (sourceScale targetScale : UInt32) (required : Nat)
      (targetPrecision : UInt32)
  | typeMismatch (expected found : ValueKind)
  | overflow (cause : Overflow)
  | invalidValue (cause : Invalidity)
  deriving DecidableEq

namespace SpecFaultKind

/-- The class of errors that a fault of this kind raises. -/
def errorKind : SpecFaultKind → ErrorKind
  | format => .format
  | unknownType => .unknownType
  | constraint => .constraint

end SpecFaultKind

namespace ConversionError

/-- The class of an error. -/
def kind : ConversionError → ErrorKind
  | specification _ fault => fault.kind.errorKind
  | unsupportedConversion _ _ | noConverter _ _ | unsupportedTimestamp _ =>
    .unsupportedConversion
  | scaleIncompatibility _ _ _ _ => .scaleIncompatibility
  | typeMismatch _ _ => .typeMismatch
  | overflow _ => .overflow
  | invalidValue _ => .invalidValue

/-- The error in words. -/
def message : ConversionError → String
  | specification text fault => "invalid type specification [" ++ text ++ "]: " ++ fault.reason
  | unsupportedConversion source target =>
    "conversion from " ++ source ++ " to " ++ target ++ " is not supported"
  | noConverter source target =>
    "no converter available for " ++ source ++ " -> " ++ target
  | unsupportedTimestamp logical => "unsupported timestamp logical type: " ++ logical
  | scaleIncompatibility sourceScale targetScale required targetPrecision =>
    "scale increase from " ++ Numeral.nat sourceScale.toNat ++ " to " ++
      Numeral.nat targetScale.toNat ++ " requires precision " ++ Numeral.nat required ++
      ", but target precision is " ++ Numeral.nat targetPrecision.toNat
  | typeMismatch expected found =>
    "expected " ++ expected.name ++ " value, got " ++ found.name
  | overflow cause => cause.message
  | invalidValue cause => cause.message

end ConversionError

end ColumnCast
