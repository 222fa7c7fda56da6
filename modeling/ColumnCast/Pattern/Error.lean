import ColumnCast.Text.Basic

/-!
# Errors in patterns

A `Place` is a position between two characters of a pattern and a `Span` is the stretch between
two places. A `PatternError` says what is wrong with a pattern and where. `PatternError.text`
shows the pattern with the stretches that the error is about marked below it, then the error in
words.
-/

namespace ColumnCast

/-! ### Places -/

namespace Pattern

/-- A position in a pattern; lines and columns count from one. -/
structure Place where
  offset : Nat
  line : Nat
  column : Nat
  deriving DecidableEq

namespace Place

/-- The beginning of a pattern. -/
def start : Place := ⟨0, 1, 1⟩

/-- The place behind a character. -/
def after (p : Place) (c : Char) : Place :=
  if c = '\n' then ⟨p.offset + 1, p.line + 1, 1⟩ else ⟨p.offset + 1, p.line, p.column + 1⟩

end Place

/-- A stretch of a pattern. -/
structure Span where
  start : Place
  stop : Place
  deriving DecidableEq

namespace Span

/-- The empty stretch at a place. -/
def point (p : Place) : Span := ⟨p, p⟩

/-- The stretch from the beginning of one to the end of another. -/
def join (a b : Span) : Span := ⟨a.start, b.stop⟩

/-- A stretch comes before another one: it begins earlier, or ends earlier from the same place
on. -/
def before (a b : Span) : Bool :=
  a.start.offset < b.start.offset ||
    (a.start.offset = b.start.offset && a.stop.offset < b.stop.offset)

end Span

/-! ### Faults -/

/-- What is wrong with a pattern. Where a part clashes with an earlier one, the fault holds the
span of that one. -/
inductive Fault where
  | classEscape
  | classRange
  | classRangeBound
  | classUnclosed
  | countInvalid
  | hexEmpty
  | hexInvalid
  | hexDigit
  | escapeUnfinished
  | escapeUnknown
  | flagNegationDangling
  | flagRepeated (earlier : Span)
  | flagNegationRepeated (earlier : Span)
  | flagsUnfinished
  | flagUnknown
  | nameRepeated (earlier : Span)
  | nameEmpty
  | nameInvalid
  | nameUnfinished
  | groupUnclosed
  | groupUnopened
  | tooDeep (limit : Nat)
  | repetitionRange
  | repetitionCount
  | repetitionUnclosed
  | repetitionOfNothing
  | boundaryUnclosed
  | boundaryUnknown
  | boundaryUnfinished
  | propertyInvalid
  | backReference
  | lookAround
  | wideCharacter
  | strayByte
  | propertyUnknown
  | propertyValueUnknown
  deriving DecidableEq

namespace Fault

/-- The fault in words. -/
def message : Fault → String
  | classEscape => "invalid escape sequence found in character class"
  | classRange => "invalid character class range, the start must be <= the end"
  | classRangeBound => "invalid range boundary, must be a literal"
  | classUnclosed => "unclosed character class"
  | countInvalid => "decimal literal invalid"
  | hexEmpty => "hexadecimal literal empty"
  | hexInvalid => "hexadecimal literal is not a Unicode scalar value"
  | hexDigit => "invalid hexadecimal digit"
  | escapeUnfinished => "incomplete escape sequence, reached end of pattern prematurely"
  | escapeUnknown => "unrecognized escape sequence"
  | flagNegationDangling => "dangling flag negation operator"
  | flagRepeated _ => "duplicate flag"
  | flagNegationRepeated _ => "flag negation operator repeated"
  | flagsUnfinished => "expected flag but got end of regex"
  | flagUnknown => "unrecognized flag"
  | nameRepeated _ => "duplicate capture group name"
  | nameEmpty => "empty capture group name"
  | nameInvalid => "invalid capture group character"
  | nameUnfinished => "unclosed capture group name"
  | groupUnclosed => "unclosed group"
  | groupUnopened => "unopened group"
  | tooDeep limit =>
    "exceed the maximum number of nested parentheses/brackets (" ++ Numeral.nat limit ++ ")"
  | repetitionRange => "invalid repetition count range, the start must be <= the end"
  | repetitionCount => "repetition quantifier expects a valid decimal"
  | repetitionUnclosed => "unclosed counted repetition"
  | repetitionOfNothing => "repetition operator missing expression"
  | boundaryUnclosed =>
    "special word boundary assertion is either unclosed or contains an invalid character"
  | boundaryUnknown =>
    "unrecognized special word boundary assertion, valid choices are: start, end, start-half " ++
      "or end-half"
  | boundaryUnfinished =>
    "found either the beginning of a special word boundary or a bounded repetition on a \\b " ++
      "with an opening brace, but no closing brace"
  | propertyInvalid => "invalid Unicode character class"
  | backReference => "backreferences are not supported"
  | lookAround => "look-around, including look-ahead and look-behind, is not supported"
  | wideCharacter => "Unicode not allowed here"
  | strayByte => "pattern can match invalid UTF-8"
  | propertyUnknown => "Unicode property not found"
  | propertyValueUnknown => "Unicode property value not found"

/-- The span of the earlier part that a fault clashes with. -/
def earlier? : Fault → Option Span
  | flagRepeated earlier | flagNegationRepeated earlier | nameRepeated earlier => some earlier
  | _ => none

end Fault

end Pattern

/-- What is wrong with a pattern, and where. -/
structure PatternError where
  fault : Pattern.Fault
  span : Pattern.Span
  deriving DecidableEq

namespace PatternError

open Pattern (Span)

/-- The spans of an error in the order of their places. -/
def spans (e : PatternError) : List Span :=
  match e.fault.earlier? with
  | none => [e.span]
  | some other => if e.span.before other then [e.span, other] else [other, e.span]

/-- The marks below a line from a column on: a caret for each column of each span. -/
def carets : Nat → List Span → List Char
  | _, [] => []
  | column, s :: rest =>
    let lead := List.replicate (s.start.column - column) ' '
    let marks := List.replicate (max 1 (s.stop.column - s.start.column)) '^'
    lead ++ marks ++ carets (column + lead.length + marks.length) rest

/-- The lines of a text; a line feed at the end begins no further line. -/
def lines (text : String) : List String :=
  match (text.splitOn "\n").reverse with
  | "" :: rest => rest.reverse
  | all => all.reverse

/-- The lines of a pattern with the marks of the spans within single lines. -/
def marked (width : Nat) (spans : List Span) : Nat → List String → List String
  | _, [] => []
  | n, line :: rest =>
    let number := Numeral.nat n
    let margin :=
      if width = 0 then "    "
      else String.ofList (List.replicate (width - number.length) ' ') ++ number ++ ": "
    let here := spans.filter fun s => s.start.line = n && s.stop.line = n
    let marks :=
      if here = [] then []
      else [String.ofList (List.replicate margin.length ' ' ++ carets 1 here)]
    (margin ++ line) :: marks ++ marked width spans (n + 1) rest

/-- A span over several lines in words. -/
def stretch (s : Span) : String :=
  "on line " ++ Numeral.nat s.start.line ++ " (column " ++ Numeral.nat s.start.column ++
    ") through line " ++ Numeral.nat s.stop.line ++ " (column " ++
    Numeral.nat (s.stop.column - 1) ++ ")"

/-- The rule above and below a pattern of several lines. -/
def rule : String :=
  String.ofList (List.replicate 79 '~')

/-- The error in a pattern as text. -/
def text (e : PatternError) (pattern : String) : String :=
  let all := lines pattern
  let ended := pattern.endsWith "\n"
  let count := if ended then all.length + 1 else all.length
  let width := if count ≤ 1 then 0 else (Numeral.nat count).length
  let body := marked width e.spans 1 all
  let shown :=
    if pattern.contains '\n' then
      rule :: body ++ rule :: (e.spans.filter fun s => s.start.line ≠ s.stop.line).map stretch
    else body
  "\n".intercalate ("regex parse error:" :: shown ++ ["error: " ++ e.fault.message])

end PatternError

end ColumnCast
