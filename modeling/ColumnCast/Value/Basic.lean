import ColumnCast.Bytes
import ColumnCast.Float.Format

/-!
# Values

A `Value` is one entry of a column: null, or a number, a truth value or a byte sequence in the
form in which its physical type stores it. Decimals are integers or byte sequences, timestamps
of twelve bytes are byte sequences.
-/

namespace ColumnCast

/-- One entry of a column. Floating-point numbers are given by their bit patterns. -/
inductive Value where
  | null
  | boolean (value : Bool)
  | int32 (value : Int32)
  | int64 (value : Int64)
  | float32 (bits : Binary32)
  | float64 (bits : Binary64)
  | bytes (bytes : Bytes)
  deriving DecidableEq

/-- The forms that a value can have. -/
inductive ValueKind where
  | null
  | boolean
  | int32
  | int64
  | float32
  | float64
  | bytes
  deriving DecidableEq

namespace ValueKind

/-- The name of a form in messages. -/
def name : ValueKind → String
  | null => "null"
  | boolean => "boolean"
  | int32 => "int32"
  | int64 => "int64"
  | float32 => "float32"
  | float64 => "float64"
  | bytes => "bytes"

end ValueKind

namespace Value

/-- The form of a value. -/
def kind : Value → ValueKind
  | null => .null
  | boolean _ => .boolean
  | int32 _ => .int32
  | int64 _ => .int64
  | float32 _ => .float32
  | float64 _ => .float64
  | bytes _ => .bytes

/-- The value is null. -/
def isNull (v : Value) : Bool :=
  v.kind = .null

end Value

end ColumnCast
