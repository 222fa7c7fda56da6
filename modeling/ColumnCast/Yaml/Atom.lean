import ColumnCast.Bytes
import ColumnCast.Float.Text
import ColumnCast.Yaml.Token

/-!
# What scalars stand for

A scalar without quotation marks stands for null, a truth value, a number or a text, depending
on its spelling; any other scalar stands for its text. A tag can ask for one kind of `Atom`.
-/

namespace ColumnCast

namespace Yaml

/-- What a scalar stands for. -/
inductive Atom where
  | null
  | boolean (value : Bool)
  | integer (value : Int)
  | real (value : Binary64)
  | text (value : String)
  deriving DecidableEq

namespace Atom

/-! ### Numbers -/

/-- The number that digits to a base stand for. -/
def digits? (base : Nat) (cs : List Char) : Option Nat :=
  if cs = [] then none
  else cs.foldlM (fun n c => (Hex.digitValue? c).bind fun d =>
    if d < base then some (base * n + d) else none) 0

/-- The number without a sign that a text stands for, in base ten or with a marker for base 16,
8 or 2. A superfluous zero in front makes a decimal text no number. -/
def magnitude? : List Char → Option Nat
  | '0' :: 'x' :: rest => digits? 16 rest
  | '0' :: 'o' :: rest => digits? 8 rest
  | '0' :: 'b' :: rest => digits? 2 rest
  | '0' :: _ :: _ => none
  | cs => digits? 10 cs

/-- The least integer that is read as one. -/
def minInteger : Int := -0x80000000000000000000000000000000

/-- The greatest integer that is read as one. -/
def maxInteger : Int := 0xFFFFFFFFFFFFFFFFFFFFFFFFFFFFFFFF

/-- The integer that a text stands for: an optional sign and a magnitude, within bounds. -/
def integer? (cs : List Char) : Option Int :=
  let n? : Option Int :=
    match cs with
    | '+' :: rest => (magnitude? rest).map Int.ofNat
    | '-' :: rest => (magnitude? rest).map fun n => -Int.ofNat n
    | _ => (magnitude? cs).map Int.ofNat
  n?.filter fun n => minInteger ≤ n ∧ n ≤ maxInteger

/-- Digits with a superfluous zero in front, after an optional sign. -/
def isPaddedNumeral (cs : List Char) : Bool :=
  let digits :=
    match cs with
    | '+' :: rest | '-' :: rest => rest
    | _ => cs
  1 < digits.length && digits.head? = some '0' && digits.all Char.isDigit

/-- The spellings of infinity, without a sign. -/
def infinityNames : List (List Char) :=
  [".inf".toList, ".Inf".toList, ".INF".toList]

/-- The spellings of the value that is no number. -/
def notANumberNames : List (List Char) :=
  [".nan".toList, ".NaN".toList, ".NAN".toList]

/-- A bit pattern that stands for a finite number. -/
def isFinite (bits : Binary64) : Bool :=
  match FloatFormat.double.decode bits with
  | .finite _ _ _ => true
  | _ => false

/-- The finite floating-point number of a decimal text. -/
def finite? (cs : List Char) : Option Binary64 :=
  (FloatFormat.double.parse? cs).filter isFinite

/-- The floating-point number that a text stands for. -/
def real? (cs : List Char) : Option Binary64 :=
  if cs ∈ notANumberNames then some FloatFormat.double.notANumber
  else
    match cs with
    | '+' :: rest =>
      if rest.head? = some '+' ∨ rest.head? = some '-' then none
      else if rest ∈ infinityNames then some (FloatFormat.double.infinity false)
      else finite? rest
    | '-' :: rest =>
      if rest ∈ infinityNames then some (FloatFormat.double.infinity true) else finite? cs
    | _ => if cs ∈ infinityNames then some (FloatFormat.double.infinity false) else finite? cs

/-! ### Words -/

/-- The spellings of null. -/
def isNullWord (s : String) : Bool :=
  s = "null" || s = "Null" || s = "NULL" || s = "~"

/-- The truth value that a word stands for. -/
def boolean? (s : String) : Option Bool :=
  if s = "true" ∨ s = "True" ∨ s = "TRUE" then some true
  else if s = "false" ∨ s = "False" ∨ s = "FALSE" then some false
  else none

/-! ### Scalars -/

/-- What a scalar without quotation marks stands for. -/
def ofPlain (s : String) : Atom :=
  let cs := s.toList
  if s = "" || isNullWord s then .null
  else
    match boolean? s with
    | some b => .boolean b
    | none =>
      match integer? cs with
      | some n => .integer n
      | none =>
        if isPaddedNumeral cs then .text s
        else
          match real? cs with
          | some x => .real x
          | none => .text s

/-- What a scalar without a tag stands for. -/
def ofUntagged (s : String) (style : ScalarStyle) : Atom :=
  if style = .plain then ofPlain s else .text s

/-- The tag begins with an exclamation mark: it is meant for the application. -/
def isLocalTag (tag : String) : Bool :=
  tag.toList.head? = some '!'

/-- What a scalar stands for. A tag for a kind that the text is none of is an error, which names
that kind. -/
def ofScalar (tag : Option String) (s : String) (style : ScalarStyle) : Except String Atom :=
  let demand (kind : String) : Option Atom → Except String Atom
    | some a => .ok a
    | none => .error kind
  match tag with
  | none => .ok (ofUntagged s style)
  | some tag =>
    if tag = "tag:yaml.org,2002:bool" then demand "a boolean" ((boolean? s).map .boolean)
    else if tag = "tag:yaml.org,2002:int" then
      demand "an integer" ((integer? s.toList).map .integer)
    else if tag = "tag:yaml.org,2002:float" then demand "a float" ((real? s.toList).map .real)
    else if tag = "tag:yaml.org,2002:null" then
      demand "null" (if isNullWord s then some .null else none)
    else if isLocalTag tag then .ok (ofUntagged s style)
    else .ok (.text s)

end Atom

end Yaml

end ColumnCast
