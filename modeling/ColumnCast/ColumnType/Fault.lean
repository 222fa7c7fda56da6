import ColumnCast.ColumnType.Basic

/-!
# Faults of column types

A `SpecFault` is one reason why a text or a pair of types is not a usable column type. Each
fault has a kind and a wording. `ColumnType.fault?` is the first rule that a pair of a physical
and a logical type breaks. A `TargetType` is a column type that breaks none; a conversion can only
aim at one of these.
-/

namespace ColumnCast

/-- The parameters that a type text can carry. -/
inductive TypeParameter where
  | length
  | precision
  | scale
  deriving DecidableEq

namespace TypeParameter

/-- The parameter as faults name it. -/
def text : TypeParameter → String
  | length => "FIXED_LEN_BYTE_ARRAY length"
  | precision => "DECIMAL precision"
  | scale => "DECIMAL scale"

end TypeParameter

/-- The three kinds of fault of a type description. -/
inductive SpecFaultKind where
  | format
  | unknownType
  | constraint
  deriving DecidableEq

/-- A reason why a type description is refused. -/
inductive SpecFault where
  | blank
  | missingColon
  | missingPhysical
  | missingLogical
  | malformedToken (part : String)
  | unknownPhysical (part : String)
  | unknownLogical (part : String)
  | lengthMissing
  | decimalParameters
  | parametersForbidden (name : String)
  | numeral (parameter : TypeParameter) (raw : String)
  | lengthNotPositive (length : Int)
  | precisionNotPositive
  | scaleNegative
  | tooLarge (parameter : TypeParameter) (value : Int)
  | timestampCarrier (unit : TimeUnit) (carrier : Carrier)
  | stringCarrier (carrier : Carrier)
  | dateCarrier (carrier : Carrier)
  | decimalCarrier (carrier : Carrier)
  | scaleExceedsPrecision (scale precision : UInt32)
  | precisionExceedsCapacity (precision : UInt32) (capacity : Nat) (carrier : Carrier)
  | stated (kind : SpecFaultKind) (reason : String)
  deriving DecidableEq

namespace SpecFault

/-- Which of the three kinds a fault is of: the shape of the text, a name that does not exist,
or a rule about parameters and pairs. -/
def kind : SpecFault → SpecFaultKind
  | blank | missingColon | missingPhysical | missingLogical => .format
  | malformedToken _ | numeral _ _ => .format
  | unknownPhysical _ | unknownLogical _ => .unknownType
  | stated kind _ => kind
  | _ => .constraint

/-- The fault in words. -/
def reason : SpecFault → String
  | blank => "empty type specification"
  | missingColon => "must be PRIMITIVE:LOGICAL format"
  | missingPhysical => "missing primitive type"
  | missingLogical => "missing logical type"
  | malformedToken part => "malformed type token [" ++ part ++ "]"
  | unknownPhysical part =>
    "unknown primitive type [" ++ part ++ "]. Supported types: " ++
      ", ".intercalate (Carrier.all.map Carrier.pattern)
  | unknownLogical part =>
    "unknown logical type [" ++ part ++ "]. Supported types: " ++
      ", ".intercalate (LogicalName.all.map LogicalName.pattern)
  | lengthMissing => "FIXED_LEN_BYTE_ARRAY requires length, use FIXED_LEN_BYTE_ARRAY(n)"
  | decimalParameters => "DECIMAL requires precision and scale, use DECIMAL(p,s)"
  | parametersForbidden name => name ++ " does not take parameters"
  | numeral parameter raw => "invalid " ++ parameter.text ++ " [" ++ raw ++ "]"
  | lengthNotPositive length =>
    "FIXED_LEN_BYTE_ARRAY length must be positive, got " ++ Numeral.int length
  | precisionNotPositive => "DECIMAL precision must be positive"
  | scaleNegative => "DECIMAL scale must be non-negative"
  | tooLarge parameter value => parameter.text ++ " " ++ Numeral.int value ++ " is too large"
  | timestampCarrier unit carrier =>
    (LogicalName.timestamp unit).text ++ " requires INT64 primitive type, got " ++ carrier.name
  | stringCarrier carrier => "STRING requires BYTE_ARRAY primitive type, got " ++ carrier.name
  | dateCarrier carrier => "DATE requires INT32 primitive type, got " ++ carrier.name
  | decimalCarrier carrier =>
    "DECIMAL requires INT32, INT64, BYTE_ARRAY, or FIXED_LEN_BYTE_ARRAY primitive type, got " ++
      carrier.name
  | scaleExceedsPrecision scale precision =>
    "DECIMAL scale (" ++ Numeral.nat scale.toNat ++ ") cannot exceed precision (" ++
      Numeral.nat precision.toNat ++ ")"
  | precisionExceedsCapacity precision capacity carrier =>
    "DECIMAL precision " ++ Numeral.nat precision.toNat ++ " exceeds maximum " ++
      Numeral.nat capacity ++ " for " ++ carrier.name
  | stated _ reason => reason

end SpecFault

/-! ### Which pairs of types make sense -/

namespace Physical

/-- The precision of a decimal is within what the physical type can store. -/
def holdsPrecision (p : Physical) (precision : UInt32) : Bool :=
  match p.maxPrecision? with
  | none => true
  | some capacity => precision.toNat ≤ capacity

end Physical

namespace ColumnType

/-- The first rule about decimals that the pair breaks. -/
def decimalFault? (p : Physical) (d : DecimalType) : Option SpecFault :=
  if !p.holdsDecimal then some (.decimalCarrier p.carrier)
  else if d.precision = 0 then some .precisionNotPositive
  else if d.precision < d.scale then some (.scaleExceedsPrecision d.scale d.precision)
  else
    match p.maxPrecision? with
    | none => none
    | some capacity =>
      if capacity < d.precision.toNat then
        some (.precisionExceedsCapacity d.precision capacity p.carrier)
      else none

/-- The first rule about the logical type that the pair breaks. -/
def logicalFault? (p : Physical) : Logical → Option SpecFault
  | .timestamp unit => if p = .int64 then none else some (.timestampCarrier unit p.carrier)
  | .string => if p = .byteArray then none else some (.stringCarrier p.carrier)
  | .date => if p = .int32 then none else some (.dateCarrier p.carrier)
  | .decimal type => decimalFault? p type
  | _ => none

/-- The first rule that a column type breaks; `none` when it is usable. -/
def fault? (t : ColumnType) : Option SpecFault :=
  if t.physical = .fixedLenByteArray 0 then some (.lengthNotPositive 0)
  else logicalFault? t.physical t.logical

end ColumnType

/-- A column type that a conversion can aim at. -/
structure TargetType extends ColumnType where
  sound : toColumnType.fault? = none

namespace TargetType

/-- The column type as a target, or the first rule that it breaks. -/
def ofColumnType (t : ColumnType) : Except SpecFault TargetType :=
  match h : t.fault? with
  | none => .ok ⟨t, h⟩
  | some fault => .error fault

end TargetType

end ColumnCast
