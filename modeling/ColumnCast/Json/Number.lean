import ColumnCast.Float.Text

/-!
# Numbers in JSON

`NumberText.parse?` splits a number into its parts and `NumberText.value?` says what it stands
for. An integer that a 64-bit word holds is exact. Every other number is computed in the 64-bit
format: the digits that fit a word, then one multiplication or division by a power of ten, each
result rounded. This is fast and, in the last bits, not always the number nearest to the text.
-/

namespace ColumnCast

namespace JsonText

/-! ### Parts -/

/-- The parts of a number; the exponent is zero when it is not written. -/
structure NumberText where
  negative : Bool
  whole : List Char
  fraction : List Char
  exponent? : Option Int

/-- What a number stands for. -/
inductive NumberValue where
  | integer (value : Int)
  | real (value : Binary64)
  deriving DecidableEq

/-- The digits that a text begins with, and the rest. -/
def spanDigits (cs : List Char) : List Char × List Char :=
  (cs.takeWhile Char.isDigit, cs.dropWhile Char.isDigit)

namespace NumberText

/-- Reads the digits before the point; a zero stands alone. -/
def whole? (cs : List Char) : Option (List Char × List Char) :=
  let (digits, rest) := spanDigits cs
  if digits = [] ∨ (digits.head? = some '0' ∧ 1 < digits.length) then none else some (digits, rest)

/-- Reads the point and the digits behind it, if there is one. -/
def fraction? : List Char → Option (List Char × List Char)
  | '.' :: rest =>
    let (digits, rest) := spanDigits rest
    if digits = [] then none else some (digits, rest)
  | cs => some ([], cs)

/-- Reads the sign and the digits of an exponent. -/
def signedDigits? (cs : List Char) : Option (Int × List Char) :=
  let (negative, cs) :=
    match cs with
    | '+' :: rest => (false, rest)
    | '-' :: rest => (true, rest)
    | _ => (false, cs)
  let (digits, rest) := spanDigits cs
  if digits = [] then none
  else
    let n : Int := Nat.ofDigitChars 10 digits 0
    some (if negative then -n else n, rest)

/-- Reads the exponent, if there is one. -/
def exponentPart? : List Char → Option (Option Int × List Char)
  | [] => some (none, [])
  | c :: rest =>
    if c = 'e' ∨ c = 'E' then (signedDigits? rest).map fun (n, rest) => (some n, rest)
    else some (none, c :: rest)

/-- Reads a number that a text begins with. -/
def parse? (cs : List Char) : Option (NumberText × List Char) := do
  let (negative, cs) :=
    match cs with
    | '-' :: rest => (true, rest)
    | _ => (false, cs)
  let (whole, cs) ← whole? cs
  let (fraction, cs) ← fraction? cs
  let (exponent, cs) ← exponentPart? cs
  return (⟨negative, whole, fraction, exponent⟩, cs)

/-! ### The digits as a word -/

/-- Appends digits to a word as long as it holds them, and returns those that are left. -/
def gather (word : Nat) : List Char → Nat × List Char
  | [] => (word, [])
  | c :: rest =>
    let next := 10 * word + (c.toNat - '0'.toNat)
    if next < UInt64.size then gather next rest else (word, c :: rest)

/-- The word and the power of ten that the digits come to. Digits before the point that the
word does not hold count like zeros; such digits behind the point are dropped. -/
def scaled (n : NumberText) : Nat × Int :=
  let (word, surplus) := gather 0 n.whole
  let (word, dropped) := gather word n.fraction
  let taken := n.fraction.length - dropped.length
  (word, (surplus.length : Int) - taken + n.exponent?.getD 0)

end NumberText

/-! ### Powers of ten in the 64-bit format -/

/-- The fraction that a finite number is, without its sign. -/
def ratio (x : Binary64) : Nat × Nat :=
  match FloatFormat.double.decode x with
  | .finite _ significand exponent => binaryRatio significand exponent
  | _ => (0, 1)

/-- The number nearest to a power of ten. -/
def tenToThe (k : Nat) : Binary64 :=
  FloatFormat.double.ofRatio false (pow10 k) 1

/-- The product with a power of ten, rounded. -/
def timesTen (x : Binary64) (k : Nat) : Binary64 :=
  let (a, b) := ratio x
  let (c, d) := ratio (tenToThe k)
  FloatFormat.double.ofRatio false (a * c) (b * d)

/-- The quotient by a power of ten, rounded. -/
def overTen (x : Binary64) (k : Nat) : Binary64 :=
  let (a, b) := ratio x
  let (c, d) := ratio (tenToThe k)
  FloatFormat.double.ofRatio false (a * d) (b * c)

/-- The greatest power of ten in the format. -/
def maxPower : Nat := 308

/-- Divides by a power of ten, in steps when it is not a number of the format. -/
def scaleDown (x : Binary64) (k : Nat) : Binary64 :=
  if k ≤ maxPower then overTen x k
  else if x = FloatFormat.double.ofInt 0 then x
  else scaleDown (overTen x maxPower) (k - maxPower)
termination_by k
decreasing_by simp only [maxPower] at *; omega

/-- Multiplies by a power of ten; nothing but zero stays finite beyond the greatest one. -/
def scaleUp? (x : Binary64) (k : Nat) : Option Binary64 :=
  if x = FloatFormat.double.ofInt 0 then some x
  else if maxPower < k then none
  else
    let y := timesTen x k
    if y = FloatFormat.double.infinity false then none else some y

/-- The number `word * 10 ^ exponent` as it is computed in the format, unless it is too large. -/
def magnitude? (word : Nat) (exponent : Int) : Option Binary64 :=
  let x := FloatFormat.double.ofInt word
  if 0 ≤ exponent then scaleUp? x exponent.toNat else some (scaleDown x (-exponent).toNat)

namespace NumberText

/-- What a number stands for, unless it is too large. An integer outside the machine words is a
floating-point number, and so is the negative zero. -/
def value? (n : NumberText) : Option NumberValue :=
  let whole : Int := Nat.ofDigitChars 10 n.whole 0
  let k := if n.negative then -whole else whole
  if n.fraction = [] ∧ n.exponent? = none ∧ Numeral.fitsWord k ∧ ¬(n.negative ∧ k = 0) then
    some (.integer k)
  else
    let (word, exponent) := n.scaled
    (magnitude? word exponent).map fun x =>
      .real (FloatFormat.double.ofMagnitude n.negative x.toNat)

end NumberText

end JsonText

end ColumnCast
