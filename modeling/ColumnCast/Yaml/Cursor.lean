import ColumnCast.Text.Basic

/-!
# Positions in a YAML text

A `Mark` is a place in a text, and a `Cursor` is what is left of the text from a place on. A
`SyntaxError` says what is wrong with a text, where, and while reading what.
-/

namespace ColumnCast

namespace Yaml

/-! ### Characters -/

/-- Spaces and tabs separate words inside a line. -/
def isGap (c : Char) : Bool :=
  c = ' ' || c = '\t'

/-- The characters that end a line. -/
def isBreak (c : Char) : Bool :=
  c = '\n' || c = '\r' || c.toNat = 0x85 || c.toNat = 0x2028 || c.toNat = 0x2029

/-- The characters of anchors, tag handles and directive names. -/
def isWordChar (c : Char) : Bool :=
  c.isAlphanum || c = '_' || c = '-'

/-- The characters that a text may contain. -/
def isAllowed (c : Char) : Bool :=
  let n := c.toNat
  n = 0x9 || n = 0xA || n = 0xD || (0x20 ≤ n && n ≤ 0x7E) || n = 0x85 ||
    (0xA0 ≤ n && n ≤ 0xFFFD) || 0x10000 ≤ n

/-- The byte order mark, which may begin a text. -/
def byteOrderMark : Char := Char.ofNat 0xFEFF

/-- Line breaks are read as line feeds, apart from the two separators of U+2028 and U+2029. -/
def breakText (c : Char) : Char :=
  if c.toNat = 0x2028 ∨ c.toNat = 0x2029 then c else '\n'

/-! ### Places -/

/-- A place in a text; lines and columns count from zero. -/
structure Mark where
  index : Nat
  line : Nat
  column : Nat
  deriving DecidableEq

namespace Mark

/-- The beginning of a text. -/
def start : Mark := ⟨0, 0, 0⟩

/-- The place is the beginning of the first line. -/
def isStart (m : Mark) : Bool :=
  m.line = 0 && m.column = 0

/-- The next place on the line. -/
def next (m : Mark) : Mark :=
  ⟨m.index + 1, m.line, m.column + 1⟩

/-- The place in words, counting from one. -/
def text (m : Mark) : String :=
  "line " ++ Numeral.nat (m.line + 1) ++ " column " ++ Numeral.nat (m.column + 1)

end Mark

/-- Why a text is no YAML document. -/
structure SyntaxError where
  problem : String
  mark : Mark
  context : Option (String × Mark)

namespace SyntaxError

/-- The error in words, with its place and what was being read. -/
def message (e : SyntaxError) : String :=
  e.problem ++ (if e.mark.isStart then "" else " at " ++ e.mark.text) ++
    match e.context with
    | none => ""
    | some (context, mark) =>
      ", " ++ context ++
        if mark.isStart || (mark.line = e.mark.line && mark.column = e.mark.column) then ""
        else " at " ++ mark.text

end SyntaxError

/-! ### Cursors -/

/-- The rest of a text and the place where it begins. -/
structure Cursor where
  rest : List Char
  mark : Mark

namespace Cursor

/-- The error that this is wrong at the cursor, while reading what began at `mark`. -/
def fail {α : Type} (c : Cursor) (context : String) (mark : Mark) (problem : String) :
    Except SyntaxError α :=
  .error ⟨problem, c.mark, some (context, mark)⟩

/-- The error that this is wrong at the cursor. -/
def failHere {α : Type} (c : Cursor) (problem : String) : Except SyntaxError α :=
  .error ⟨problem, c.mark, none⟩

/-- The character `n` places ahead. -/
def ahead? (c : Cursor) (n : Nat) : Option Char :=
  c.rest[n]?

/-- The character `n` places ahead satisfies `p`. -/
def atChar (c : Cursor) (n : Nat) (p : Char → Bool) : Bool :=
  (c.ahead? n).any p

/-- The cursor stands before this character. -/
def sees (c : Cursor) (x : Char) : Bool :=
  c.atChar 0 (· = x)

/-- The text is over `n` places ahead, or a gap or a line break stands there. -/
def endsWord (c : Cursor) (n : Nat) : Bool :=
  (c.ahead? n).all fun x => isGap x || isBreak x

/-- The text is over, or a line break follows. -/
def endsLine (c : Cursor) : Bool :=
  (c.ahead? 0).all isBreak

/-- The text is over. -/
def atEnd (c : Cursor) : Bool :=
  c.rest.isEmpty

/-- Moves over `n` characters of the line. -/
def advance (c : Cursor) (n : Nat) : Cursor :=
  ⟨c.rest.drop n, ⟨c.mark.index + n, c.mark.line, c.mark.column + n⟩⟩

/-- Moves over the characters of the line that satisfy `p`, and returns them. -/
def spanWhile (c : Cursor) (p : Char → Bool) : List Char × Cursor :=
  let taken := c.rest.takeWhile p
  (taken, c.advance taken.length)

/-- Moves over the characters of the line that satisfy `p`. -/
def skipWhile (c : Cursor) (p : Char → Bool) : Cursor :=
  (c.spanWhile p).2

/-- Moves over a line break, if one follows, and returns what it is read as. -/
def takeBreak? (c : Cursor) : Option (Char × Cursor) :=
  match c.rest with
  | '\r' :: '\n' :: rest => some ('\n', ⟨rest, ⟨c.mark.index + 2, c.mark.line + 1, 0⟩⟩)
  | x :: rest =>
    if isBreak x then some (breakText x, ⟨rest, ⟨c.mark.index + 1, c.mark.line + 1, 0⟩⟩)
    else none
  | [] => none

/-- Moves over a line break, if one follows. -/
def skipBreak (c : Cursor) : Cursor :=
  match c.takeBreak? with
  | some (_, next) => next
  | none => c

/-- Moves over a comment, if one begins here. -/
def skipComment (c : Cursor) : Cursor :=
  if c.sees '#' then c.skipWhile (!isBreak ·) else c

/-- A line that begins or ends a document begins here: three times `x`, then a word's end. -/
def atIndicator (c : Cursor) (x : Char) : Bool :=
  c.mark.column = 0 && c.sees x && c.atChar 1 (· = x) && c.atChar 2 (· = x) && c.endsWord 3

/-- A line that begins or ends a document begins here. -/
def atDocumentLine (c : Cursor) : Bool :=
  c.atIndicator '-' || c.atIndicator '.'

end Cursor

end Yaml

end ColumnCast
