import ColumnCast.ColumnType.Fault
import ColumnCast.Text.Basic

/-!
# Type texts

A type text is `PHYSICAL:LOGICAL`, cut at the first colon. Each side is a name, in any ASCII
case and with blanks around it, and `FIXED_LEN_BYTE_ARRAY` and `DECIMAL` take parameters in
parentheses. `TargetType.parse` reads a text or reports its first fault: the physical side is
judged completely, then the logical side, then the pair.
-/

namespace ColumnCast

namespace Descriptor

/-- The characters of names, in upper case. -/
def isNameChar (c : Char) : Bool :=
  c.isUpper || c.isDigit || c = '_'

/-- One side of a type text: a name and, when parentheses follow, what they hold. -/
structure Token where
  name : String
  parameters? : Option (List Char)

/-- The parameters after a name: nothing, or parentheses around a text without parentheses,
of which the blanks at the ends do not count. -/
def parameters? : List Char → Option (Option (List Char))
  | [] => some none
  | '(' :: rest =>
    match rest.span fun c => c ≠ '(' ∧ c ≠ ')' with
    | (inner, [')']) => some (some (Text.trim inner))
    | _ => none
  | _ => none

/-- Reads one side of a type text in upper case. -/
def token? (cs : List Char) : Option Token :=
  match cs.span isNameChar with
  | ([], _) => none
  | (name, rest) =>
    (parameters? (Text.trimLeft rest)).map fun params => ⟨String.ofList name, params⟩

/-- Reads one side of a type text; its letters are taken in upper case. -/
def token (part : List Char) : Except SpecFault Token :=
  match token? (Text.upper part) with
  | some t => .ok t
  | none => .error (.malformedToken (String.ofList part))

/-- Reads a parameter as a 64-bit integer. -/
def numeral (parameter : TypeParameter) (raw : List Char) : Except SpecFault Int :=
  match Numeral.parseInt? raw >>= Numeral.toInt64? with
  | some n => .ok n.toInt
  | none => .error (.numeral parameter (String.ofList raw))

/-- A non-negative parameter as a 32-bit number. -/
def word (parameter : TypeParameter) (n : Int) : Except SpecFault UInt32 :=
  if n.toNat < UInt32.size then .ok (UInt32.ofNat n.toNat) else .error (.tooLarge parameter n)

/-- The length that the parameters of `FIXED_LEN_BYTE_ARRAY` give. -/
def length (raw : List Char) : Except SpecFault UInt32 := do
  let n ← numeral .length raw
  if n ≤ 0 then throw (.lengthNotPositive n)
  word .length n

/-- The decimal type that the parameters of `DECIMAL` give. -/
def decimalType (raw : List Char) : Except SpecFault DecimalType :=
  match (Text.splitAll ',' raw).map Text.trim with
  | [rawPrecision, rawScale] => do
    let precision ← numeral .precision rawPrecision
    let scale ← numeral .scale rawScale
    if precision ≤ 0 then throw .precisionNotPositive
    if scale < 0 then throw .scaleNegative
    return ⟨← word .precision precision, ← word .scale scale⟩
  | _ => .error .decimalParameters

/-- The physical type of a carrier that takes no length. -/
def bareCarrier : Carrier → Except SpecFault Physical
  | .boolean => .ok .boolean
  | .int32 => .ok .int32
  | .int64 => .ok .int64
  | .int96 => .ok .int96
  | .float => .ok .float
  | .double => .ok .double
  | .byteArray => .ok .byteArray
  | .fixedLenByteArray => .error .lengthMissing

/-- The logical type of a name that takes no parameters. -/
def bareLogical : LogicalName → Except SpecFault Logical
  | .bare => .ok .bare
  | .string => .ok .string
  | .decimal => .error .decimalParameters
  | .timestamp unit => .ok (.timestamp unit)
  | .date => .ok .date
  | .time unit => .ok (.time unit)
  | .uuid => .ok .uuid
  | .enum => .ok .enum
  | .json => .ok .json
  | .bson => .ok .bson

/-- Reads the physical side of a type text. -/
def physical (part : List Char) : Except SpecFault Physical := do
  let t ← token part
  match Carrier.ofName? t.name, t.parameters? with
  | none, _ => throw (.unknownPhysical (String.ofList part))
  | some .fixedLenByteArray, some raw => return .fixedLenByteArray (← length raw)
  | some carrier, some _ => throw (.parametersForbidden carrier.name)
  | some carrier, none => bareCarrier carrier

/-- Reads the logical side of a type text. -/
def logical (part : List Char) : Except SpecFault Logical := do
  let t ← token part
  match LogicalName.ofText? t.name, t.parameters? with
  | none, _ => throw (.unknownLogical (String.ofList part))
  | some .decimal, some raw => return .decimal (← decimalType raw)
  | some name, some _ => throw (.parametersForbidden name.text)
  | some name, none => bareLogical name

/-- Reads a type text as a pair, without asking whether the pair makes sense. -/
def pair (cs : List Char) : Except SpecFault ColumnType :=
  if Text.trim cs = [] then .error .blank
  else
    match Text.splitFirst? ':' cs with
    | none => .error .missingColon
    | some (left, right) => do
      let left := Text.trim left
      let right := Text.trim right
      if left = [] then throw .missingPhysical
      if right = [] then throw .missingLogical
      return ⟨← physical left, ← logical right⟩

end Descriptor

namespace TargetType

/-- Reads a type text. -/
def parse (text : String) : Except SpecFault TargetType :=
  Descriptor.pair text.toList >>= TargetType.ofColumnType

end TargetType

end ColumnCast
