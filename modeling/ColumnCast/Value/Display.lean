import ColumnCast.Bytes
import ColumnCast.Calendar
import ColumnCast.Cast.Decimal
import ColumnCast.Float.Text
import ColumnCast.Text.Quoted
import ColumnCast.Value.Basic

/-!
# Values as text

`Value.display` shows a value to the user. A byte sequence that encodes text without control
characters is shown as quoted text, any other in hexadecimal after `0x`. `Value.explained` shows
a value of a column and, in brackets, what it means there: the decimal number that an unscaled
value stands for, or the date of a timestamp.
-/

namespace ColumnCast

namespace Text

/-- The control characters: the two blocks of them below U+00A0. -/
def isControl (c : Char) : Bool :=
  c.toNat < 0x20 || (0x7F ≤ c.toNat && c.toNat < 0xA0)

end Text

namespace Value

/-- A byte sequence as text. -/
def displayBytes (bytes : Bytes) : List Char :=
  match Utf8.decode? bytes with
  | some cs => if cs.all fun c => !Text.isControl c then Text.quote cs else hexText
  | none => hexText
where
  /-- The bytes in hexadecimal after `0x`. -/
  hexText : List Char := '0' :: 'x' :: Hex.encode bytes

/-- A value as text. -/
def display : Value → String
  | null => "null"
  | boolean true => "true"
  | boolean false => "false"
  | int32 v => Numeral.int v.toInt
  | int64 v => Numeral.int v.toInt
  | float32 bits => FloatFormat.single.text bits
  | float64 bits => FloatFormat.double.text bits
  | bytes b => String.ofList (displayBytes b)

/-! ### Values with their meaning -/

/-- The decimal number that a value of a column stands for. -/
def decimalMeaning? (t : ColumnType) (v : Value) : Option String :=
  match t.decimal?, DecimalForm.ofPhysical? t.physical with
  | some type, some form =>
    match form.decode v with
    | .ok unscaled => some (FixedPoint.text unscaled type.scale.toNat)
    | .error _ => none
  | _, _ => none

/-- The date that a value of a column stands for. -/
def dateMeaning? (t : ColumnType) (v : Value) : Option String :=
  match t.logical.timestampUnit?, v with
  | some unit, .int64 n => unit.dateText? n
  | _, _ => none

/-- What a value of a column stands for, if that is more than the value. Null stands for
nothing. -/
def meaning? (t : ColumnType) (v : Value) : Option String :=
  if v.isNull then none else decimalMeaning? t v <|> dateMeaning? t v

/-- A value with its meaning in a column of this type. -/
def explained (t : ColumnType) (v : Value) : String :=
  match v.meaning? t with
  | some meaning => v.display ++ " (" ++ meaning ++ ")"
  | none => v.display

end Value

end ColumnCast
