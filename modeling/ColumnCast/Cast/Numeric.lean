import ColumnCast.ColumnType.Basic
import ColumnCast.Error

/-!
# Conversions between numbers

A `NumericCast` converts between two different ones of the four plain number types. Integers
become the nearest floating-point number, floating-point numbers lose their fraction, and what
the target cannot hold is an overflow.
-/

namespace ColumnCast

/-- The four plain number types. -/
inductive NumericType where
  | int32
  | int64
  | float
  | double
  deriving DecidableEq

namespace NumericType

/-- The number type that a physical type stores. -/
def ofPhysical? : Physical → Option NumericType
  | .int32 => some int32
  | .int64 => some int64
  | .float => some float
  | .double => some double
  | _ => none

/-- The form of the values of a number type. -/
def valueKind : NumericType → ValueKind
  | int32 => .int32
  | int64 => .int64
  | float => .float32
  | double => .float64

/-- The name of a number type in descriptions of conversions. -/
def label : NumericType → String
  | int32 => "Int32"
  | int64 => "Int64"
  | float => "Float"
  | double => "Double"

end NumericType

/-- A conversion from one number type to another. -/
structure NumericCast where
  source : NumericType
  target : NumericType
  distinct : source ≠ target
  deriving DecidableEq

namespace NumericCast

/-- The conversion between two number types, unless they are the same. -/
def ofTypes? (source target : NumericType) : Option NumericCast :=
  if h : source ≠ target then some ⟨source, target, h⟩ else none

/-- The conversion between two physical types, if both store numbers. -/
def ofPhysical? (source target : Physical) : Option NumericCast :=
  match NumericType.ofPhysical? source, NumericType.ofPhysical? target with
  | some s, some t => ofTypes? s t
  | _, _ => none

/-- The conversion in a description. -/
def label (c : NumericCast) : String :=
  c.source.label ++ "To" ++ c.target.label

end NumericCast

/-! ### Single steps -/

namespace NumericCast

/-- A 32-bit integer as a number of a type; every type has one near it. -/
def ofInt32 (n : Int32) : NumericType → Value
  | .int32 => .int32 n
  | .int64 => .int64 n.toInt64
  | .float => .float32 (FloatFormat.single.ofInt n.toInt)
  | .double => .float64 (FloatFormat.double.ofInt n.toInt)

/-- A 64-bit integer as a number of a type. -/
def ofInt64 (n : Int64) : NumericType → Except ConversionError Value
  | .int32 =>
    match Numeral.toInt32? n.toInt with
    | some v => .ok (.int32 v)
    | none => .error (.overflow (.integer n))
  | .int64 => .ok (.int64 n)
  | .float => .ok (.float32 (FloatFormat.single.ofInt n.toInt))
  | .double => .ok (.float64 (FloatFormat.double.ofInt n.toInt))

/-- An integer as a value of an integer type, if it is in its range. -/
def ofInteger? (n : Int) : IntegerKind → Option Value
  | .int32 => (Numeral.toInt32? n).map .int32
  | .int64 => (Numeral.toInt64? n).map .int64

/-- The integer part of a floating-point number of the form `source`. -/
def truncate (source : ValueKind) (bits : Binary64) (target : IntegerKind) :
    Except ConversionError Value :=
  let number := FloatFormat.double.decode bits
  match number.truncate? with
  | some n =>
    match ofInteger? n target with
    | some v => .ok v
    | none => .error (.overflow (.float source bits target))
  | none =>
    if number = .nan then .error (.invalidValue (.notANumber target))
    else .error (.invalidValue (.infinite target))

/-- A double as a float; a finite number beyond the largest finite float is an overflow. -/
def narrow (bits : Binary64) : Except ConversionError Value :=
  if (FloatFormat.double.decode bits).beyond FloatFormat.single.maxFinite then
    .error (.overflow (.double bits))
  else .ok (.float32 bits.narrow)

/-- A floating-point number, given by the double with its value, as a number of a type. -/
def ofFloating (source : ValueKind) (bits : Binary64) :
    NumericType → Except ConversionError Value
  | .int32 => truncate source bits .int32
  | .int64 => truncate source bits .int64
  | .float => narrow bits
  | .double => .ok (.float64 bits)

/-- Converts a value; one of another form than the source type's is refused. -/
def convert (c : NumericCast) (v : Value) : Except ConversionError Value :=
  match c.source, v with
  | .int32, .int32 n => .ok (ofInt32 n c.target)
  | .int64, .int64 n => ofInt64 n c.target
  | .float, .float32 bits => ofFloating .float32 bits.widen c.target
  | .double, .float64 bits => ofFloating .float64 bits c.target
  | source, other => .error (.typeMismatch source.valueKind other.kind)

end NumericCast

end ColumnCast
