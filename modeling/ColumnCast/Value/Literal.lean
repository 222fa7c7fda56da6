import ColumnCast.Bytes
import ColumnCast.Error

/-!
# Literals

`Value.parseLiteral` reads the text of a value for a column of a given physical type. Blanks
around a literal do not count, `null` in any ASCII case is the null value, and byte sequences
are hexadecimal after `0x` or else the text itself, blanks included.
-/

namespace ColumnCast

namespace Value

/-- The texts of the two truth values, in lower case. -/
def parseBoolean? (cs : List Char) : Option Bool :=
  let name := String.ofList (Text.lower cs)
  if name = "true" ∨ name = "t" ∨ name = "1" then some true
  else if name = "false" ∨ name = "f" ∨ name = "0" then some false
  else none

/-- Reads a literal without blanks around it that is not null; `whole` is the text with them.
On failure the form that was expected is reported. -/
def parseTrimmed (whole literal : List Char) : Physical → Except LiteralKind Value
  | .boolean => expect .boolean ((parseBoolean? literal).map boolean)
  | .int32 => expect .int32 ((Numeral.parseInt? literal >>= Numeral.toInt32?).map int32)
  | .int64 => expect .int64 ((Numeral.parseInt? literal >>= Numeral.toInt64?).map int64)
  | .float => expect .float ((FloatFormat.single.parse? literal).map float32)
  | .double => expect .double ((FloatFormat.double.parse? literal).map float64)
  | .int96 =>
    expect .int96 ((Hex.decode? ((Hex.stripMarker? literal).getD literal)).map bytes)
  | .byteArray | .fixedLenByteArray _ =>
    match Hex.stripMarker? literal with
    | some digits => expect .bytes ((Hex.decode? digits).map bytes)
    | none => .ok (bytes (Utf8.encode whole))
where
  /-- The result of reading, or the form that was expected. -/
  expect (kind : LiteralKind) : Option Value → Except LiteralKind Value
    | some v => .ok v
    | none => .error kind

/-- The literal is the word for the null value. -/
def isNullLiteral (cs : List Char) : Bool :=
  Text.lower cs = ['n', 'u', 'l', 'l']

/-- Reads the text of a value of a physical type. -/
def parseLiteral (text : String) (physical : Physical) : Except ConversionError Value :=
  let literal := Text.trim text.toList
  if isNullLiteral literal then .ok null
  else
    match parseTrimmed text.toList literal physical with
    | .ok v => .ok v
    | .error kind => .error (.invalidValue (.literal (String.ofList literal) kind))

end Value

end ColumnCast
