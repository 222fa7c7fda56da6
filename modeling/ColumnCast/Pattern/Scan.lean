import ColumnCast.Pattern.Error
import ColumnCast.Text.Basic

/-!
# Walking over a pattern

A `Scan` is the rest of a pattern with the place where it begins. Where the pattern is verbose,
blanks and comments between its parts do not count. `Reading` is the type of the functions that
read parts of a pattern.
-/

namespace ColumnCast

namespace Pattern

/-- The rest of a pattern, whether it is verbose, and the names of groups so far. -/
structure Scan where
  rest : List Char
  place : Place
  verbose : Bool
  names : List (String × Span)

namespace Scan

/-- Moves over a character. -/
def advance (s : Scan) : Scan :=
  match s.rest with
  | [] => s
  | c :: rest => { s with rest, place := s.place.after c }

/-- Moves over `n` characters. -/
def advanceBy (s : Scan) : Nat → Scan
  | 0 => s
  | n + 1 => s.advance.advanceBy n

/-- How many characters of a verbose text are blanks and comments; `comment` says that a comment
has begun. -/
def fillerLength (comment : Bool) : List Char → Nat
  | [] => 0
  | c :: rest =>
    if comment then 1 + fillerLength (c ≠ '\n') rest
    else if Text.isBlank c then 1 + fillerLength false rest
    else if c = '#' then 1 + fillerLength true rest
    else 0

/-- Moves over blanks and comments in a verbose pattern. -/
def skipFiller (s : Scan) : Scan :=
  if s.verbose then s.advanceBy (fillerLength false s.rest) else s

/-- Moves over a character and the filler behind it. -/
def next (s : Scan) : Scan :=
  let moved := s.advance
  if moved.rest = [] then moved else moved.skipFiller

/-- Moves over characters that satisfy `p`, each with the filler behind it. The count is at
least the number of characters left. -/
def spanNext (p : Char → Bool) : Nat → Scan → List Char × Scan
  | 0, s => ([], s)
  | n + 1, s =>
    match s.rest with
    | c :: _ =>
      if p c then
        let (cs, rest) := spanNext p n s.next
        (c :: cs, rest)
      else ([], s)
    | [] => ([], s)

/-- What stands behind the next character and, in a verbose pattern, behind the blanks and the
number signs that follow it. -/
def peekBehind (s : Scan) : Option Char :=
  let behind := s.rest.drop 1
  if s.verbose then
    let shown := behind.dropWhile Text.isBlank
    let shown :=
      match shown with
      | '#' :: more => more.dropWhile Text.isBlank
      | _ => shown
    if shown = [] then behind.head? else shown.head?
  else behind.head?

end Scan

/-- Something that reads a part of a pattern. -/
abbrev Reading := StateT Scan (Except PatternError)

namespace Reading

/-- The place that reading has come to. -/
def here : Reading Place := do
  return (← get).place

/-- The next character. -/
def peek : Reading (Option Char) := do
  return (← get).rest.head?

/-- The pattern is over. -/
def atEnd : Reading Bool := do
  return (← get).rest.isEmpty

/-- Moves over a character. -/
def skip : Reading Unit :=
  modify Scan.advance

/-- Moves over a character and the filler behind it, and says whether anything is left. -/
def next : Reading Bool := do
  modify Scan.next
  return !(← atEnd)

/-- Moves over filler. -/
def skipFiller : Reading Unit :=
  modify Scan.skipFiller

/-- Moves over characters that satisfy `p`, each with the filler behind it. -/
def spanNext (p : Char → Bool) : Reading (List Char) := do
  let s ← get
  let (cs, rest) := s.spanNext p s.rest.length
  set rest
  return cs

/-- The rest begins with this text. -/
def sees (text : List Char) : Reading Bool := do
  return text.isPrefixOf (← get).rest

/-- Moves over a text if the rest begins with it, and says whether it does. -/
def skipIf (text : List Char) : Reading Bool := do
  if ← sees text then
    modify fun s => s.advanceBy text.length
    return true
  else return false

/-- The span of the next character. -/
def charSpan : Reading Span := do
  let s ← get
  return ⟨s.place, s.advance.place⟩

/-- The empty span at the place that reading has come to. -/
def point : Reading Span := do
  return .point (← here)

/-- The span from a place to where reading has come to. -/
def since (start : Place) : Reading Span := do
  return ⟨start, ← here⟩

/-- The pattern is wrong in a span. -/
def fail {α : Type} (fault : Fault) (span : Span) : Reading α :=
  throw ⟨fault, span⟩

/-- The pattern is wrong from a place to where reading has come to. -/
def failSince {α : Type} (fault : Fault) (start : Place) : Reading α := do
  fail fault (← since start)

/-- The pattern is wrong at the next character. -/
def failChar {α : Type} (fault : Fault) : Reading α := do
  fail fault (← charSpan)

/-- The pattern is wrong at the place that reading has come to. -/
def failHere {α : Type} (fault : Fault) : Reading α := do
  fail fault (← point)

end Reading

end Pattern

end ColumnCast
