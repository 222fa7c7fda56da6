import ColumnCast.Json.Text
import ColumnCast.Plan.Basic
import ColumnCast.Text.Quoted

/-!
# Column types in JSON

A column type stands in a JSON text as a string, the type text that `TargetType.read` reads and
`ColumnType.text` writes.
-/

namespace ColumnCast

namespace JsonText

/-! ### Wording -/

/-- The decimal digits of a number in JSON: positional for magnitudes from `10 ^ -5` to
`10 ^ 16`, always with a point, and scientific with a signed exponent elsewhere. -/
def decimalText (d : Decimal) : List Char :=
  let digits := Numeral.ofNat d.digits
  let point := (digits.length : Int) + d.exponent
  if 0 ≤ d.exponent ∧ point ≤ 16 then d.positional ++ ['.', '0']
  else if -5 < point ∧ point ≤ 16 then d.positional
  else
    let fraction := if digits.length = 1 then [] else '.' :: digits.drop 1
    let sign := if point < 1 then [] else ['+']
    digits.take 1 ++ fraction ++ 'e' :: (sign ++ Numeral.ofInt (point - 1))

/-- A finite number in JSON, with its shortest digits; of two equally near decimals the even one
is written. -/
def realText (x : Binary64) : String :=
  match FloatFormat.double.decode x with
  | .finite negative m e =>
    let magnitude := if m = 0 then "0.0".toList else decimalText (shortest .double .even m e)
    String.ofList (if negative then '-' :: magnitude else magnitude)
  | _ => FloatFormat.double.text x

namespace Outline

/-- What was found, in words. -/
def description : Outline → String
  | null => "null"
  | boolean true => "boolean \x60true\x60"
  | boolean false => "boolean \x60false\x60"
  | integer n => "integer \x60" ++ Numeral.int n ++ "\x60"
  | real x => "floating point \x60" ++ realText x ++ "\x60"
  | text s => "string " ++ Text.quoted s
  | array => "sequence"
  | object => "map"

end Outline

/-- The line and the column at which a text ends; lines count from one. -/
def endPlace (cs : List Char) : Nat × Nat :=
  (cs.count '\n' + 1, (cs.reverse.takeWhile (· ≠ '\n')).length)

/-! ### Reading -/

/-- Why a JSON text is no column type. -/
inductive TypeFault where
  | malformed
  | mismatch (found : Outline) (line column : Nat)
  | specification (cause : ConversionError)
  deriving DecidableEq

namespace TypeFault

/-- The fault in words. -/
def message : TypeFault → String
  | malformed => "malformed JSON"
  | mismatch found line column =>
    "invalid type: " ++ found.description ++ ", expected a string at line " ++ Numeral.nat line ++
      " column " ++ Numeral.nat column
  | specification cause => cause.message

end TypeFault

/-- Reads a column type from a JSON text. The value is judged as soon as it is read, before
what follows it; only for a type text does it matter that nothing but filler follows. -/
def readType (json : String) : Except TypeFault TargetType :=
  let cs := json.toList
  match head? cs with
  | none => .error .malformed
  | some (.text spec, rest) => do
    let type ← (TargetType.read spec).mapError .specification
    if (skipFiller rest).isEmpty then return type else throw .malformed
  | some (outline, rest) =>
    let (line, column) := endPlace (cs.take (cs.length - rest.length))
    .error (.mismatch outline line column)

end JsonText

end ColumnCast
