import ColumnCast.Bytes
import ColumnCast.Json.Number

/-!
# JSON texts

`JsonText.head?` reads a JSON text as far as it takes to say what value stands in it: a string, a
number or a literal name as a whole, an array or an object up to its bracket. `JsonText.quoted`
writes a string.
-/

namespace ColumnCast

namespace JsonText

/-- The value of a JSON text, without what stands inside an array or an object. -/
inductive Outline where
  | null
  | boolean (value : Bool)
  | integer (value : Int)
  | real (value : Binary64)
  | text (value : String)
  | array
  | object
  deriving DecidableEq

/-! ### Strings -/

/-- The four characters that separate the parts of a JSON text. -/
def isFiller (c : Char) : Bool :=
  c = ' ' || c = '\t' || c = '\n' || c = '\r'

/-- The text without the filler that it begins with. -/
def skipFiller (cs : List Char) : List Char :=
  cs.dropWhile isFiller

/-- The character that a letter after a backslash stands for. -/
def escapeLetter? (c : Char) : Option Char :=
  match c with
  | '"' => some '"'
  | '\\' => some '\\'
  | '/' => some '/'
  | 'b' => some (Char.ofNat 0x8)
  | 'f' => some (Char.ofNat 0xC)
  | 'n' => some '\n'
  | 'r' => some '\r'
  | 't' => some '\t'
  | _ => none

/-- The first half of a pair of surrogates. -/
def isHighSurrogate (n : Nat) : Bool :=
  0xD800 ≤ n && n < 0xDC00

/-- The second half of a pair of surrogates. -/
def isLowSurrogate (n : Nat) : Bool :=
  0xDC00 ≤ n && n < 0xE000

/-- The code point of a pair of surrogates. -/
def paired (high low : Nat) : Nat :=
  0x10000 + (high - 0xD800) * 0x400 + (low - 0xDC00)

/-- Reads the four digits of an escaped code unit. -/
def codeUnit? (cs : List Char) : Option (Nat × List Char) :=
  if (cs.take 4).length = 4 then (Hex.number? (cs.take 4)).map fun n => (n, cs.drop 4)
  else none

/-- Reads the code units behind a backslash and the letter of a code unit. A surrogate has to
come in a pair. -/
def codePoint? (cs : List Char) : Option (Char × List Char) :=
  match codeUnit? cs with
  | none => none
  | some (n, rest) =>
    if isHighSurrogate n then
      match rest with
      | '\\' :: 'u' :: more =>
        match codeUnit? more with
        | some (low, rest) =>
          if isLowSurrogate low then some (Char.ofNat (paired n low), rest) else none
        | none => none
      | _ => none
    else if isLowSurrogate n then none
    else some (Char.ofNat n, rest)

/-- Reads the characters of a string up to and with its closing mark. Every character takes at
least one of the text, so a count of its length is enough. -/
def characters? : Nat → List Char → Option (List Char × List Char)
  | 0, _ => none
  | _ + 1, [] => none
  | _ + 1, '"' :: rest => some ([], rest)
  | count + 1, '\\' :: 'u' :: rest =>
    match codePoint? rest with
    | some (c, rest) => (characters? count rest).map fun (cs, rest) => (c :: cs, rest)
    | none => none
  | count + 1, '\\' :: letter :: rest =>
    match escapeLetter? letter with
    | some c => (characters? count rest).map fun (cs, rest) => (c :: cs, rest)
    | none => none
  | count + 1, c :: rest =>
    if c = '\\' ∨ c.toNat < 0x20 then none
    else (characters? count rest).map fun (cs, rest) => (c :: cs, rest)

/-- Reads a string behind its opening mark. -/
def string? (cs : List Char) : Option (List Char × List Char) :=
  characters? (cs.length + 1) cs

/-! ### Values -/

/-- What a JSON text holds, with the characters behind the part that says so. -/
def head? (cs : List Char) : Option (Outline × List Char) :=
  match skipFiller cs with
  | 'n' :: 'u' :: 'l' :: 'l' :: rest => some (.null, rest)
  | 't' :: 'r' :: 'u' :: 'e' :: rest => some (.boolean true, rest)
  | 'f' :: 'a' :: 'l' :: 's' :: 'e' :: rest => some (.boolean false, rest)
  | '"' :: rest => (string? rest).map fun (s, rest) => (.text (String.ofList s), rest)
  | '[' :: rest => some (.array, '[' :: rest)
  | '\x7b' :: rest => some (.object, '\x7b' :: rest)
  | cs => do
    let (n, rest) ← NumberText.parse? cs
    match ← n.value? with
    | .integer k => return (.integer k, rest)
    | .real x => return (.real x, rest)

/-! ### Writing -/

/-- A character inside a string. -/
def escaped (c : Char) : List Char :=
  if c = '"' ∨ c = '\\' then ['\\', c]
  else if c = '\n' then ['\\', 'n']
  else if c = '\r' then ['\\', 'r']
  else if c = '\t' then ['\\', 't']
  else if c.toNat = 0x8 then ['\\', 'b']
  else if c.toNat = 0xC then ['\\', 'f']
  else if c.toNat < 0x20 then '\\' :: 'u' :: '0' :: '0' :: Hex.encodeByte (UInt8.ofNat c.toNat)
  else [c]

/-- A string with its quotation marks. -/
def quoted (s : String) : String :=
  String.ofList ('"' :: (s.toList.flatMap escaped ++ ['"']))

/-- An array of strings with one line for each. -/
def lines (items : List String) : String :=
  if items = [] then "[]"
  else "[\n" ++ String.intercalate ",\n" (items.map fun s => "  " ++ quoted s) ++ "\n]"

end JsonText

end ColumnCast
