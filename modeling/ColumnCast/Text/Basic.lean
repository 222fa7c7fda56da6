/-!
# Texts and numerals

`Text.isBlank` is the set of characters that count as white space around every text this library
reads: the code points with the Unicode property `White_Space`. `Text.trim` removes them at both
ends and leaves the inside alone.

An integer numeral is an optional sign followed by one or more ASCII digits. `Numeral.parseInt?`
reads exactly these texts, whatever their length; range checks are the caller's.
`Numeral.ofNat` and `Numeral.ofInt` write a number with the fewest digits.
-/

namespace ColumnCast

/-! ### Blanks -/

namespace Text

/-- The code points with the property `White_Space`, as closed ranges. -/
def blankRanges : List (Nat × Nat) :=
  [(0x9, 0xD), (0x20, 0x20), (0x85, 0x85), (0xA0, 0xA0), (0x1680, 0x1680), (0x2000, 0x200A),
    (0x2028, 0x2029), (0x202F, 0x202F), (0x205F, 0x205F), (0x3000, 0x3000)]

/-- A **blank** is a character with the property `White_Space`. -/
def isBlank (c : Char) : Bool :=
  blankRanges.any fun (low, high) => low ≤ c.toNat && c.toNat ≤ high

/-- The text without the blanks it begins with. -/
def trimLeft (cs : List Char) : List Char :=
  cs.dropWhile isBlank

/-- The text without the blanks it ends with. -/
def trimRight (cs : List Char) : List Char :=
  (cs.reverse.dropWhile isBlank).reverse

/-- The text without the blanks at either end. -/
def trim (cs : List Char) : List Char :=
  trimRight (trimLeft cs)

/-- `trim` on strings. -/
def trimmed (s : String) : String :=
  String.ofList (trim s.toList)

/-! ### Cutting a text -/

/-- Splits a text at the first occurrence of `mark`, which belongs to neither half; `none`
when it does not occur. -/
def splitFirst? (mark : Char) : List Char → Option (List Char × List Char)
  | [] => none
  | c :: rest =>
    if c = mark then some ([], rest)
    else (splitFirst? mark rest).map fun (before, after) => (c :: before, after)

/-- All pieces of a text between the occurrences of `mark`: one more than there are marks. -/
def splitAll (mark : Char) : List Char → List (List Char)
  | [] => [[]]
  | c :: rest =>
    match splitAll mark rest with
    | [] => [[c]]
    | piece :: pieces =>
      if c = mark then [] :: piece :: pieces else (c :: piece) :: pieces

/-! ### Letter case -/

/-- The text with its ASCII letters in upper case; every other character stays. -/
def upper (cs : List Char) : List Char :=
  cs.map Char.toUpper

/-- The text with its ASCII letters in lower case; every other character stays. -/
def lower (cs : List Char) : List Char :=
  cs.map Char.toLower

end Text

/-! ### Numerals -/

namespace Numeral

/-- The value of a non-empty run of ASCII digits. -/
def parseNat? (cs : List Char) : Option Nat :=
  if cs ≠ [] ∧ cs.all Char.isDigit then some (Nat.ofDigitChars 10 cs 0) else none

/-- The value of an integer numeral: an optional `+` or `-`, then digits. -/
def parseInt? : List Char → Option Int
  | '+' :: digits => (parseNat? digits).map Int.ofNat
  | '-' :: digits => (parseNat? digits).map fun n => -Int.ofNat n
  | digits => (parseNat? digits).map Int.ofNat

/-- The shortest numeral of a natural number. -/
def ofNat (n : Nat) : List Char :=
  Nat.toDigits 10 n

/-- The shortest numeral of an integer; only a negative one has a sign. -/
def ofInt (n : Int) : List Char :=
  if n < 0 then '-' :: ofNat n.natAbs else ofNat n.natAbs

/-- `ofNat` as a string. -/
def nat (n : Nat) : String :=
  String.ofList (ofNat n)

/-- `ofInt` as a string. -/
def int (n : Int) : String :=
  String.ofList (ofInt n)

/-! ### Machine integers -/

/-- The 32-bit integer of this value, if there is one. -/
def toInt32? (n : Int) : Option Int32 :=
  if Int32.minValue.toInt ≤ n ∧ n ≤ Int32.maxValue.toInt then some (Int32.ofInt n) else none

/-- The 64-bit integer of this value, if there is one. -/
def toInt64? (n : Int) : Option Int64 :=
  if Int64.minValue.toInt ≤ n ∧ n ≤ Int64.maxValue.toInt then some (Int64.ofInt n) else none

/-- The value fits a 64-bit word, signed or not. -/
def fitsWord (n : Int) : Bool :=
  Int64.minValue.toInt ≤ n ∧ n < UInt64.size

end Numeral

end ColumnCast
