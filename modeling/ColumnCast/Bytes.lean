/-!
# Byte sequences

A byte sequence stands for a number or for a text. `Bytes.littleEndian` reads it as a natural
number, the first byte counting least; `Bytes.ofNat` writes a number on a given count of bytes.
`Bytes.signed` gives a number below `256 ^ k` the value it has as a `k`-byte two's complement
pattern, and `Bytes.pattern` is the number whose pattern a value has.

`Hex.encode` shows bytes in hexadecimal, `Utf8.encode` writes characters as bytes. `Hex.decode?`
refuses an odd number of digits, and `Utf8.decode?` answers `none` for the byte sequences that no
text is encoded as. `Utf8.WellFormed` is the set of encodings.
-/

namespace ColumnCast

/-- The number of sequences of `k` bytes. -/
abbrev pow256 (k : Nat) : Nat := Nat.pow 256 k

/-- A sequence of bytes. -/
abbrev Bytes := List UInt8

namespace Bytes

/-- The number whose base-256 digits these are, the least significant first. -/
def littleEndian : Bytes → Nat
  | [] => 0
  | b :: rest => b.toNat + 256 * littleEndian rest

/-- The `k` low base-256 digits of `n`, the least significant first. -/
def ofNat : Nat → Nat → Bytes
  | 0, _ => []
  | k + 1, n => UInt8.ofNat (n % 256) :: ofNat k (n / 256)

/-- The value of the `k`-byte two's complement pattern `n`. -/
def signed (k n : Nat) : Int :=
  if 2 * n < pow256 k then n else (n : Int) - pow256 k

/-- The `k`-byte two's complement pattern of `v`. -/
def pattern (k : Nat) (v : Int) : Nat :=
  (v % (pow256 k : Int)).toNat

end Bytes

/-! ### Hexadecimal text -/

namespace Hex

/-- The value of a hexadecimal digit of either case. -/
def digitValue? (c : Char) : Option Nat :=
  if '0' ≤ c ∧ c ≤ '9' then some (c.toNat - '0'.toNat)
  else if 'a' ≤ c ∧ c ≤ 'f' then some (c.toNat - 'a'.toNat + 10)
  else if 'A' ≤ c ∧ c ≤ 'F' then some (c.toNat - 'A'.toNat + 10)
  else none

/-- The number that digits stand for, however many they are. -/
def number? (digits : List Char) : Option Nat :=
  digits.foldlM (fun n x => (digitValue? x).map (16 * n + ·)) 0

/-- The lower-case digits of one byte. -/
def encodeByte (b : UInt8) : List Char :=
  [Nat.digitChar (b.toNat / 16), Nat.digitChar (b.toNat % 16)]

/-- Two lower-case digits for each byte. -/
def encode : Bytes → List Char
  | [] => []
  | b :: rest => encodeByte b ++ encode rest

/-- The bytes that a text of digit pairs stands for. -/
def decode? : List Char → Option Bytes
  | [] => some []
  | [_] => none
  | high :: low :: rest =>
    match digitValue? high, digitValue? low, decode? rest with
    | some h, some l, some bytes => some (UInt8.ofNat (16 * h + l) :: bytes)
    | _, _, _ => none

/-- The digits without the marker `0x` or `0X` in front of them, if it is there. -/
def stripMarker? : List Char → Option (List Char)
  | '0' :: 'x' :: digits => some digits
  | '0' :: 'X' :: digits => some digits
  | _ => none

/-- The bytes in lower-case hexadecimal as a string, without a marker. -/
def text (bytes : Bytes) : String :=
  String.ofList (encode bytes)

end Hex

/-! ### UTF-8 -/

namespace Utf8

/-- The bytes of a text. -/
def encode (cs : List Char) : Bytes :=
  cs.flatMap String.utf8EncodeChar

/-- The text of which these are the bytes, if they are the bytes of one. -/
def decode? (bytes : Bytes) : Option (List Char) :=
  bytes.toByteArray.utf8Decode?.map Array.toList

/-- Byte sequences that encode some text. -/
def WellFormed (bytes : Bytes) : Prop :=
  ∃ cs, encode cs = bytes

end Utf8

end ColumnCast
