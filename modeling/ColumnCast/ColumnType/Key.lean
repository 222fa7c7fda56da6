import ColumnCast.ColumnType.Basic

/-!
# Keys of column types

Whether a conversion exists depends on less than the full types: lengths, decimal parameters
and timestamp units do not matter. A `TypeKey` is what is left, and `allowedPairs` lists the
pairs of keys between which values can be converted.
-/

namespace ColumnCast

/-- A column type without its parameters; all timestamps have one key. -/
inductive TypeKey where
  | bare (carrier : Carrier)
  | decimal (carrier : Carrier)
  | timestamp
  | named (carrier : Carrier) (name : LogicalName)
  deriving DecidableEq

namespace TypeKey

/-- The key as it is shown to the user. -/
def text : TypeKey → String
  | bare carrier => carrier.name
  | decimal carrier => carrier.name ++ ":DECIMAL"
  | timestamp => "INT64:TIMESTAMP"
  | named carrier name => carrier.name ++ ":" ++ name.text

/-- The key of byte arrays that hold text. -/
def text8 : TypeKey :=
  named .byteArray .string

end TypeKey

namespace ColumnType

/-- The key of a column type. -/
def key (t : ColumnType) : TypeKey :=
  match t.logical with
  | .bare => .bare t.physical.carrier
  | .decimal _ => .decimal t.physical.carrier
  | .timestamp _ => .timestamp
  | other => .named t.physical.carrier other.name

end ColumnType

/-! ### The allow-list -/

/-- The pairs of plain numbers of different types. -/
def numericPairs : List (TypeKey × TypeKey) :=
  [(.bare .int32, .bare .int64), (.bare .int64, .bare .int32),
    (.bare .float, .bare .double), (.bare .double, .bare .float),
    (.bare .int32, .bare .float), (.bare .int32, .bare .double),
    (.bare .int64, .bare .float), (.bare .int64, .bare .double),
    (.bare .float, .bare .int32), (.bare .float, .bare .int64),
    (.bare .double, .bare .int32), (.bare .double, .bare .int64)]

/-- The pairs of byte sequences, with and without a fixed length or a text meaning. -/
def binaryPairs : List (TypeKey × TypeKey) :=
  [(.bare .byteArray, .bare .fixedLenByteArray), (.bare .fixedLenByteArray, .bare .byteArray),
    (.bare .byteArray, .bare .byteArray), (.bare .fixedLenByteArray, .bare .fixedLenByteArray),
    (.bare .byteArray, .text8), (.text8, .bare .byteArray), (.text8, .text8),
    (.text8, .bare .fixedLenByteArray), (.bare .fixedLenByteArray, .text8)]

/-- The carriers of decimals. -/
def decimalCarriers : List Carrier :=
  [.int32, .int64, .byteArray, .fixedLenByteArray]

/-- Every pair of decimals. -/
def decimalPairs : List (TypeKey × TypeKey) :=
  decimalCarriers.flatMap fun source =>
    decimalCarriers.map fun target => (.decimal source, .decimal target)

/-- The **allow-list**: the pairs of keys between which values can be converted, in the order
in which they are listed to the user. -/
def allowedPairs : List (TypeKey × TypeKey) :=
  numericPairs ++ [(.bare .int96, .timestamp)] ++ binaryPairs ++ decimalPairs

/-- The pair of keys is on the allow-list. -/
def isAllowed (source target : TypeKey) : Bool :=
  (source, target) ∈ allowedPairs

/-- `isAllowed` on keys as they are shown to the user. -/
def isAllowedText (source target : String) : Bool :=
  allowedPairs.any fun pair => pair.1.text = source && pair.2.text = target

/-- The keys that a column type can be converted to, in the order of the allow-list. -/
def allowedTargets (source : ColumnType) : List TypeKey :=
  (allowedPairs.filter fun pair => pair.1 = source.key).map Prod.snd

end ColumnCast
