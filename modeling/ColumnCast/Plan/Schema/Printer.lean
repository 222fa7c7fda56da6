import ColumnCast.Plan.Basic
import ColumnCast.Yaml.Atom

/-!
# Writing schemas

`Schema.yaml` writes a schema as the YAML text from which it is read: the columns in their
order, each with its path and its type. `Written.line` writes a text as the value of a field of a
block mapping. The style is the lightest one that reads back as the same text: plain, in single
quotes, in double quotes, or as a literal block for a text with line feeds.
-/

namespace ColumnCast

namespace Yaml

namespace Written

/-! ### What a text looks like -/

/-- The characters that can stand in a scalar as they are. -/
def showsItself (c : Char) : Bool :=
  let n := c.toNat
  n = 0xA || (0x20 ≤ n && n ≤ 0x7E) || (0xA0 ≤ n && n ≤ 0xFFFD && n ≠ 0xFEFF) || 0x10000 ≤ n

/-- Two characters of these kinds stand side by side. -/
def hasPair (p q : Char → Bool) (cs : List Char) : Bool :=
  (cs.zip (cs.drop 1)).any fun (a, b) => p a && q b

/-- The character is a space. -/
def isSpace (c : Char) : Bool :=
  c = ' '

/-- The characters that separate words. -/
def isSeparator (c : Char) : Bool :=
  isGap c || isBreak c || c = Char.ofNat 0

/-- The characters that cannot begin a plain scalar of a block collection. -/
def openers : List Char :=
  "#,[]\x7b\x7d&*!|>\"%@".toList ++ [Char.ofNat 39, Char.ofNat 0x60]

/-- The text begins like something else than a plain scalar. -/
def beginsOther : List Char → Bool
  | [] => false
  | c :: rest =>
    openers.contains c || ((c = '?' || c = '-') && rest.head?.all isSeparator) ||
      (c :: rest).take 3 = ['-', '-', '-'] || (c :: rest).take 3 = ['.', '.', '.']

/-- The text would end as a plain scalar before its last character: a colon ends a key there, or
a comment begins. -/
def breaksOff (cs : List Char) : Bool :=
  hasPair (· = ':') isSeparator cs || cs.getLast? = some ':' || hasPair isSeparator (· = '#') cs

/-- A character at either end of the text satisfies `p`. -/
def atEither (p : Char → Bool) (cs : List Char) : Bool :=
  cs.head?.any p || cs.getLast?.any p

/-- The text can stand between single quotes. -/
def fitsSingle (cs : List Char) : Bool :=
  cs.all showsItself && !hasPair isBreak isSpace cs && !hasPair isSpace isBreak cs

/-- The text can stand without quotation marks. -/
def fitsPlain (cs : List Char) : Bool :=
  fitsSingle cs && !cs.any isBreak && !atEither isSpace cs && !beginsOther cs && !breaksOff cs

/-- The text can stand in a literal block. -/
def fitsLiteral (cs : List Char) : Bool :=
  cs.all showsItself && !cs.getLast?.any isSpace && !hasPair isSpace isBreak cs

/-- A plain scalar with this text stands for the text and looks like no number. -/
def readsAsText (s : String) : Bool :=
  Atom.ofPlain s = .text s && !Atom.isPaddedNumeral s.toList

/-- The style in which a text is written. -/
def style (s : String) : ScalarStyle :=
  let cs := s.toList
  if cs.contains '\n' then
    if fitsLiteral cs then .literal else .doubleQuoted
  else if readsAsText s && fitsPlain cs then .plain
  else if fitsSingle cs then .singleQuoted
  else .doubleQuoted

/-! ### Writing -/

/-- The indentation of the lines of a scalar after its first. -/
def indentation : List Char := List.replicate 4 ' '

/-- Indents the lines of a text that are not empty; `atStart` says that a line begins. -/
def indented : Bool → List Char → List Char
  | _, [] => []
  | atStart, c :: rest =>
    if isBreak c then c :: indented true rest
    else (if atStart then indentation else []) ++ c :: indented false rest

/-- A text between single quotes, each of its own written twice. -/
def single (cs : List Char) : List Char :=
  let quote := Char.ofNat 39
  let doubled := cs.flatMap fun c => if c = quote then [c, c] else [c]
  quote :: (indented false doubled ++ (if cs.getLast?.any isBreak then indentation else []) ++
    [quote])

/-- The letter that stands for a character after a backslash. -/
def escapeLetter? (c : Char) : Option Char :=
  match c.toNat with
  | 0x0 => some '0'
  | 0x7 => some 'a'
  | 0x8 => some 'b'
  | 0x9 => some 't'
  | 0xA => some 'n'
  | 0xB => some 'v'
  | 0xC => some 'f'
  | 0xD => some 'r'
  | 0x1B => some 'e'
  | 0x22 => some '"'
  | 0x5C => some '\\'
  | 0x85 => some 'N'
  | 0x2028 => some 'L'
  | 0x2029 => some 'P'
  | _ => none

/-- A code point on this many hexadecimal digits, in upper case. -/
def hexDigits (width n : Nat) : List Char :=
  let digits := (Nat.toDigits 16 n).map Char.toUpper
  List.replicate (width - digits.length) '0' ++ digits

/-- A character between double quotes. -/
def doubleChar (c : Char) : List Char :=
  let n := c.toNat
  match escapeLetter? c with
  | some letter => ['\\', letter]
  | none =>
    if showsItself c then [c]
    else if n ≤ 0xFF then '\\' :: 'x' :: hexDigits 2 n
    else if n ≤ 0xFFFF then '\\' :: 'u' :: hexDigits 4 n
    else '\\' :: 'U' :: hexDigits 8 n

/-- A text between double quotes. -/
def double (cs : List Char) : List Char :=
  '"' :: (cs.flatMap doubleChar ++ ['"'])

/-- The indicators of a literal block: its indentation if the text begins with a space or a line
break, and what happens to the line breaks at its end. -/
def literalHead (cs : List Char) : List Char :=
  let indent := if cs.head?.any fun c => isSpace c || isBreak c then ['2'] else []
  let chomping :=
    match cs.reverse with
    | last :: rest =>
      if !isBreak last then ['-'] else if rest.head?.all isBreak then ['+'] else []
    | [] => ['-']
  '|' :: (indent ++ chomping)

/-- A text as a literal block. -/
def literal (cs : List Char) : List Char :=
  literalHead cs ++ '\n' :: indented true cs

/-- A text in the style that it asks for. -/
def scalar (s : String) : List Char :=
  let cs := s.toList
  match style s with
  | .plain => cs
  | .singleQuoted => single cs
  | .literal => literal cs
  | .doubleQuoted | .folded => double cs

/-- A text as the rest of a line; a literal block may end one already. -/
def line (s : String) : String :=
  let ended := style s = .literal && s.toList.getLast?.any isBreak
  String.ofList (scalar s ++ if ended then [] else ['\n'])

end Written

end Yaml

/-! ### Columns and schemas -/

open Yaml (Written.line)

namespace Column

/-- A column as an item of a sequence. -/
def yaml (c : Column) : String :=
  "- path: " ++ Written.line c.path ++ "  type: " ++ Written.line c.type.text

end Column

namespace Schema

/-- A schema as YAML text. -/
def yaml (s : Schema) : String :=
  if s.columns = [] then "columns: []\n"
  else "columns:\n" ++ String.join (s.columns.map Column.yaml)

end Schema

end ColumnCast
