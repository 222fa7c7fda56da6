import ColumnCast.Float.Format
import ColumnCast.Text.Basic

/-!
# Column types

A column has a `Physical` type, which says how its values are stored, and a `Logical` type,
which says what they mean. A `ColumnType` is any such pair; which pairs make sense is the
business of `ColumnCast.ColumnType.Pairing`.
-/

namespace ColumnCast

/-! ### Physical types -/

/-- A physical type without its length. -/
inductive Carrier where
  | boolean
  | int32
  | int64
  | int96
  | float
  | double
  | byteArray
  | fixedLenByteArray
  deriving DecidableEq

namespace Carrier

/-- Every carrier, in the order in which they are listed to the user. -/
def all : List Carrier :=
  [boolean, int32, int64, int96, float, double, byteArray, fixedLenByteArray]

/-- The name of a carrier in type texts. -/
def name : Carrier → String
  | boolean => "BOOLEAN"
  | int32 => "INT32"
  | int64 => "INT64"
  | int96 => "INT96"
  | float => "FLOAT"
  | double => "DOUBLE"
  | byteArray => "BYTE_ARRAY"
  | fixedLenByteArray => "FIXED_LEN_BYTE_ARRAY"

/-- The name with a placeholder for the parameters, as it is listed to the user. -/
def pattern : Carrier → String
  | fixedLenByteArray => "FIXED_LEN_BYTE_ARRAY(n)"
  | carrier => carrier.name

/-- The carrier of this name. -/
def ofName? (name : String) : Option Carrier :=
  all.find? fun carrier => carrier.name = name

end Carrier

/-- How the values of a column are stored. -/
inductive Physical where
  | boolean
  | int32
  | int64
  | int96
  | float
  | double
  | byteArray
  | fixedLenByteArray (length : UInt32)
  deriving DecidableEq

namespace Physical

/-- The physical type without its length. -/
def carrier : Physical → Carrier
  | boolean => .boolean
  | int32 => .int32
  | int64 => .int64
  | int96 => .int96
  | float => .float
  | double => .double
  | byteArray => .byteArray
  | fixedLenByteArray _ => .fixedLenByteArray

/-- The name of the physical type, without its length. -/
def name (p : Physical) : String :=
  p.carrier.name

/-- The physical type as type texts write it. -/
def text : Physical → String
  | fixedLenByteArray length => "FIXED_LEN_BYTE_ARRAY(" ++ Numeral.nat length.toNat ++ ")"
  | p => p.name

/-- The length of a fixed-length type. -/
def fixedLength? : Physical → Option UInt32
  | fixedLenByteArray length => some length
  | _ => none

/-- The types that hold one number each. -/
def isNumeric : Physical → Bool
  | int32 | int64 | float | double => true
  | _ => false

/-- The types that hold a byte sequence each. -/
def isBinary : Physical → Bool
  | byteArray | fixedLenByteArray _ => true
  | _ => false

/-- The types that can store a decimal's unscaled value. -/
def holdsDecimal : Physical → Bool
  | int32 | int64 | byteArray | fixedLenByteArray _ => true
  | _ => false

/-- The greatest decimal precision that a byte array of this length is taken to hold: the whole
digits that its value bits are estimated to give, at most the greatest precision there is. -/
def fixedLengthPrecision (length : Nat) : Nat :=
  min (DigitCount.floor (8 * length - 1)) (UInt32.size - 1)

/-- The greatest decimal precision of the type; `none` when there is no limit, zero when it
cannot store decimals. -/
def maxPrecision? : Physical → Option Nat
  | int32 => some 9
  | int64 => some 18
  | fixedLenByteArray length => some (fixedLengthPrecision length.toNat)
  | byteArray => none
  | _ => some 0

end Physical

/-! ### Logical types -/

/-- The unit that a timestamp or a time of day counts. -/
inductive TimeUnit where
  | nanos
  | micros
  | millis
  deriving DecidableEq

/-- The parameters of a decimal type: its values are `v / 10 ^ scale` for integers `v` of at
most `precision` digits. -/
structure DecimalType where
  precision : UInt32
  scale : UInt32
  deriving DecidableEq

/-- A logical type without its parameters. -/
inductive LogicalName where
  | bare
  | string
  | decimal
  | timestamp (unit : TimeUnit)
  | date
  | time (unit : TimeUnit)
  | uuid
  | enum
  | json
  | bson
  deriving DecidableEq

namespace LogicalName

/-- Every logical name, in the order in which they are listed to the user. -/
def all : List LogicalName :=
  [bare, string, decimal, timestamp .nanos, timestamp .micros, timestamp .millis, date,
    time .millis, time .micros, time .nanos, uuid, enum, json, bson]

/-- The name in type texts. -/
def text : LogicalName → String
  | bare => "NONE"
  | string => "STRING"
  | decimal => "DECIMAL"
  | timestamp .nanos => "TIMESTAMP_NANOS"
  | timestamp .micros => "TIMESTAMP_MICROS"
  | timestamp .millis => "TIMESTAMP_MILLIS"
  | date => "DATE"
  | time .millis => "TIME_MILLIS"
  | time .micros => "TIME_MICROS"
  | time .nanos => "TIME_NANOS"
  | uuid => "UUID"
  | enum => "ENUM"
  | json => "JSON"
  | bson => "BSON"

/-- The name with placeholders for the parameters, as it is listed to the user. -/
def pattern : LogicalName → String
  | decimal => "DECIMAL(p,s)"
  | name => name.text

/-- The logical name that is written like this. -/
def ofText? (text : String) : Option LogicalName :=
  all.find? fun name => name.text = text

end LogicalName

/-- What the values of a column mean. -/
inductive Logical where
  | bare
  | string
  | decimal (type : DecimalType)
  | timestamp (unit : TimeUnit)
  | date
  | time (unit : TimeUnit)
  | uuid
  | enum
  | json
  | bson
  deriving DecidableEq

namespace DecimalType

/-- The decimal type as type texts write it. -/
def text (d : DecimalType) : String :=
  "DECIMAL(" ++ Numeral.nat d.precision.toNat ++ "," ++ Numeral.nat d.scale.toNat ++ ")"

end DecimalType

namespace Logical

/-- The logical type without its parameters. -/
def name : Logical → LogicalName
  | bare => .bare
  | string => .string
  | decimal _ => .decimal
  | timestamp unit => .timestamp unit
  | date => .date
  | time unit => .time unit
  | uuid => .uuid
  | enum => .enum
  | json => .json
  | bson => .bson

/-- The logical type as type texts write it. -/
def text : Logical → String
  | decimal type => type.text
  | l => l.name.text

/-- The parameters of a decimal type. -/
def decimal? : Logical → Option DecimalType
  | decimal type => some type
  | _ => none

/-- The unit of a timestamp. -/
def timestampUnit? : Logical → Option TimeUnit
  | timestamp unit => some unit
  | _ => none

/-- The logical type is a decimal. -/
def isDecimal (l : Logical) : Bool :=
  l.decimal?.isSome

/-- The logical type is a timestamp. -/
def isTimestamp (l : Logical) : Bool :=
  l.timestampUnit?.isSome

end Logical

/-! ### Column types -/

/-- The type of a column: how its values are stored and what they mean. -/
structure ColumnType where
  physical : Physical
  logical : Logical
  deriving DecidableEq

namespace ColumnType

/-- The column type as type texts write it. -/
def text (t : ColumnType) : String :=
  t.physical.text ++ ":" ++ t.logical.text

/-- The parameters of a decimal column. -/
def decimal? (t : ColumnType) : Option DecimalType :=
  t.logical.decimal?

end ColumnType

end ColumnCast
