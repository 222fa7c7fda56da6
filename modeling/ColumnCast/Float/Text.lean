import ColumnCast.Float.Format
import ColumnCast.Text.Basic
import ColumnCast.Unscaled

/-!
# Floating-point text

`shortest f tie m e` is the decimal with the fewest digits that reads back as the number
`m * 2 ^ e` of the format `f`, and of those the one nearest to it; of two that are equally near,
`tie` takes one. A decimal reads back when it lies in the interval of fractions that round to
the number; the interval has its ends exactly when `m` is even. The search goes over the grids
of one digit, two digits and so on and looks at the two neighbours of the number on each.

`FloatFormat.text` writes a number with these digits in positional notation, of two equally near
decimals the one above, and without a point when it is whole. `FloatFormat.parse?` reads decimal
texts with an optional exponent and the names of the infinities and of not-a-number, rounding
once from the exact fraction to the format.
-/

namespace ColumnCast

/-! ### Shortest decimals -/

/-- The decimal `digits * 10 ^ exponent`. -/
structure Decimal where
  digits : Nat
  exponent : Int
  deriving DecidableEq

/-- The number of decimal digits before the point of `num / den`; zero or less counts the
zeros after the point of a fraction below one. -/
def decimalPlace (num den : Nat) : Int :=
  if den ≤ num then ((Nat.toDigits 10 (num / den)).length : Int)
  else 1 - ((Nat.toDigits 10 ((den - 1) / num)).length : Int)

/-- Which of two decimals that are equally near to a number is taken: the one above it or the
one with the even last digit. -/
inductive Tie where
  | above
  | even
  deriving DecidableEq

/-- The fractions that round to one number: the number itself, the ends of the interval, all
over one denominator, and whether the ends belong to it. -/
structure RoundingInterval where
  low : Nat
  value : Nat
  high : Nat
  den : Nat
  closed : Bool

namespace RoundingInterval

/-- The interval around the number `m * 2 ^ e` of a format. Below a power of two the numbers
lie twice as close together, unless the spacing is already the least. -/
def around (f : FloatFormat) (m : Nat) (e : Int) : RoundingInterval :=
  let below := if m = pow2 f.fractionBits ∧ f.minExponent < e then 1 else 2
  let (factor, den) := binaryRatio 1 (e - 2)
  { low := (4 * m - below) * factor
    value := 4 * m * factor
    high := (4 * m + 2) * factor
    den
    closed := m % 2 = 0 }

/-- The decimal lies in the interval. -/
def contains (i : RoundingInterval) (d : Decimal) : Bool :=
  let scaled := d.digits * pow10 d.exponent.toNat * i.den
  let unit := pow10 (-d.exponent).toNat
  if i.closed then i.low * unit ≤ scaled && scaled ≤ i.high * unit
  else i.low * unit < scaled && scaled < i.high * unit

/-- The greatest multiple of `10 ^ exponent` that is not above the number. -/
def floorAt (i : RoundingInterval) (exponent : Int) : Decimal :=
  ⟨i.value * pow10 (-exponent).toNat / (i.den * pow10 exponent.toNat), exponent⟩

/-- The multiple above is taken rather than `below`, the one below: it is nearer to the number,
or equally near and the choice of `tie`. -/
def prefersAbove (i : RoundingInterval) (tie : Tie) (below : Decimal) : Bool :=
  let middle := (2 * below.digits + 1) * pow10 below.exponent.toNat * i.den
  let value := 2 * i.value * pow10 (-below.exponent).toNat
  middle < value || middle = value && (tie = .above || below.digits % 2 = 1)

/-- The decimal of the interval on the grid `10 ^ exponent` that is nearest to the number. -/
def nearestAt? (i : RoundingInterval) (tie : Tie) (exponent : Int) : Option Decimal :=
  let below := i.floorAt exponent
  let above : Decimal := ⟨below.digits + 1, exponent⟩
  match i.contains below, i.contains above with
  | true, true => some (if i.prefersAbove tie below then above else below)
  | true, false => some below
  | false, true => some above
  | false, false => none

/-- The first grid with a decimal of the interval, from `exponent` on down. -/
def search (i : RoundingInterval) (tie : Tie) : Nat → Int → Decimal
  | 0, exponent => i.floorAt exponent
  | fuel + 1, exponent =>
    match i.nearestAt? tie exponent with
    | some d => d
    | none => i.search tie fuel (exponent - 1)

end RoundingInterval

/-- More digits than any number of the formats used here needs. -/
def maxShortestDigits : Nat := 20

/-- The shortest decimal that reads back as the positive number `m * 2 ^ e` of the format. -/
def shortest (f : FloatFormat) (tie : Tie) (m : Nat) (e : Int) : Decimal :=
  let i := RoundingInterval.around f m e
  let d := i.search tie maxShortestDigits (decimalPlace i.value i.den - 1)
  if d.digits % 10 = 0 then ⟨d.digits / 10, d.exponent + 1⟩ else d

/-! ### Writing -/

namespace Decimal

/-- Positional notation, without an exponent and without superfluous zeros. -/
def positional (d : Decimal) : List Char :=
  FixedPoint.magnitude (d.digits * pow10 d.exponent.toNat) (-d.exponent).toNat

end Decimal

namespace FloatFormat

/-- The text of what a pattern stands for. -/
def numberText (f : FloatFormat) : Number → List Char
  | .nan => ['N', 'a', 'N']
  | .infinite false => ['i', 'n', 'f']
  | .infinite true => ['-', 'i', 'n', 'f']
  | .finite negative significand exponent =>
    let magnitude :=
      if significand = 0 then ['0'] else (shortest f .above significand exponent).positional
    if negative then '-' :: magnitude else magnitude

/-- The text of a bit pattern. -/
def text (f : FloatFormat) (bits : f.Bits) : String :=
  String.ofList (f.numberText (f.decode bits))

end FloatFormat

/-! ### Reading -/

/-- The parts of a decimal text: its digits with the point left out, how many of them stand
after the point, and the exponent. -/
structure DecimalText where
  digits : List Char
  fractionDigits : Nat
  exponent : Int

namespace DecimalText

/-- The exponent part of a decimal text: nothing, or `e` and an integer numeral. -/
def exponent? : List Char → Option Int
  | [] => some 0
  | c :: rest => if c = 'e' ∨ c = 'E' then Numeral.parseInt? rest else none

/-- Reads an unsigned decimal text: digits with at most one point among or beside them, at
least one digit, then the exponent part. -/
def parse? (cs : List Char) : Option DecimalText :=
  let whole := cs.takeWhile Char.isDigit
  let afterWhole := cs.dropWhile Char.isDigit
  let (fraction, rest) :=
    match afterWhole with
    | '.' :: tail => (tail.takeWhile Char.isDigit, tail.dropWhile Char.isDigit)
    | _ => ([], afterWhole)
  if whole = [] ∧ fraction = [] then none
  else (exponent? rest).map fun exponent => ⟨whole ++ fraction, fraction.length, exponent⟩

/-- The power of ten of the last digit. -/
def lastPlace (d : DecimalText) : Int :=
  d.exponent - d.fractionDigits

/-- No format used here has a finite number other than zero beyond this power of ten, on
either side of one. -/
def extremePlace : Int := 400

/-- The number of the format nearest to the decimal. A decimal far outside the format's range
is an infinity or a zero without its power of ten being computed. -/
def round (f : FloatFormat) (negative : Bool) (d : DecimalText) : f.Bits :=
  let value := Nat.ofDigitChars 10 d.digits 0
  if value = 0 then f.ofRatio negative 0 1
  else
    let place := decimalPlace value 1 + d.lastPlace
    if extremePlace < place then f.infinity negative
    else if place < -extremePlace then f.ofRatio negative 0 1
    else f.ofRatio negative (value * pow10 d.lastPlace.toNat) (pow10 (-d.lastPlace).toNat)

end DecimalText

namespace FloatFormat

/-- Reads a text without its sign. -/
def parseUnsigned? (f : FloatFormat) (negative : Bool) (cs : List Char) : Option f.Bits :=
  match DecimalText.parse? cs with
  | some d => some (d.round f negative)
  | none =>
    let name := String.ofList (Text.lower cs)
    if name = "inf" ∨ name = "infinity" then some (f.infinity negative)
    else if name = "nan" then some f.notANumber
    else none

/-- Reads a floating-point text: an optional sign, then a decimal or a name. -/
def parse? (f : FloatFormat) : List Char → Option f.Bits
  | '+' :: rest => f.parseUnsigned? false rest
  | '-' :: rest => f.parseUnsigned? true rest
  | cs => f.parseUnsigned? false cs

end FloatFormat

end ColumnCast
