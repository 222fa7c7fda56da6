import ColumnCast.Bytes
import ColumnCast.Pattern.Scan
import ColumnCast.Pattern.Tree

/-!
# Escape sequences

A backslash gives the character behind it a meaning, or takes one from it. `escape` reads such a
sequence; inside and outside of classes the same ones exist.
-/

namespace ColumnCast

namespace Pattern

/-- What an escape sequence stands for. -/
inductive Escape where
  | literal (l : Literal)
  | property (p : PropertyClass)
  | letter (span : Span) (negated : Bool) (kind : LetterClass)
  | assertion (span : Span) (kind : Assertion)

namespace Escape

/-- The stretch in which a sequence is written. -/
def span : Escape → Span
  | literal l => l.span
  | property p => p.span
  | letter s _ _ | assertion s _ => s

end Escape

namespace Reading

/-! ### Characters by number -/

/-- A hexadecimal digit. -/
def isHexDigit (c : Char) : Bool :=
  (Hex.digitValue? c).isSome

/-- Reads this many hexadecimal digits. -/
def hexDigits : Nat → Reading (List Char)
  | 0 => return []
  | n + 1 => do
    match ← peek with
    | none => failHere .escapeUnfinished
    | some c =>
      if !isHexDigit c then failChar .hexDigit
      let _ ← next
      return c :: (← hexDigits n)

/-- The character with the number that hexadecimal digits in a span stand for. -/
def numbered (digits : List Char) (span : Span) : Reading Char :=
  match Hex.number? digits with
  | some n => if n.isValidChar then return Char.ofNat n else fail .hexInvalid span
  | none => fail .hexInvalid span

/-- Reads hexadecimal digits in braces. -/
def bracedNumber : Reading Char := do
  let brace ← here
  let start := (← charSpan).stop
  let _ ← next
  let digits ← spanNext isHexDigit
  match ← peek with
  | none => failSince .escapeUnfinished brace
  | some c =>
    if c ≠ '\x7d' then failChar .hexDigit
    let span ← since start
    let _ ← next
    if digits = [] then failSince .hexEmpty brace
    numbered digits span

/-- Reads the number of a character behind a letter that says how many digits it has. -/
def characterNumber (start : Place) (digits : Nat) : Reading Escape := do
  if !(← next) then failHere .escapeUnfinished
  if (← peek) = some '\x7b' then
    let c ← bracedNumber
    return .literal ⟨← since start, c, false⟩
  else
    let first ← here
    let c ← numbered (← hexDigits digits) (← since first)
    return .literal ⟨← since start, c, digits = 2⟩

/-! ### Properties -/

/-- The question that the text in braces puts: for a name, or for a name and a value with a mark
between them. The first component says that the answer is reversed. -/
def propertyQuery (text : String) : Bool × PropertyQuery :=
  match text.splitOn "!=" with
  | name :: rest@(_ :: _) => (true, .valued name ("!=".intercalate rest))
  | _ =>
    match text.splitOn ":" with
    | name :: rest@(_ :: _) => (false, .valued name (":".intercalate rest))
    | _ =>
      match text.splitOn "=" with
      | name :: rest@(_ :: _) => (false, .valued name ("=".intercalate rest))
      | _ => (false, .named text)

/-- Reads the name of a property: one letter, or a text in braces. -/
def property (start : Place) (negated : Bool) : Reading Escape := do
  if !(← next) then failHere .escapeUnfinished
  match ← peek with
  | none => failHere .escapeUnfinished
  | some c =>
    if c = '\x7b' then
      let _ ← next
      let name ← spanNext (· ≠ '\x7d')
      if ← atEnd then failHere .escapeUnfinished
      skip
      let (reversed, query) := propertyQuery (String.ofList name)
      return .property ⟨← since start, negated ≠ reversed, query⟩
    else
      if c = '\\' then failChar .propertyInvalid
      let _ ← next
      return .property ⟨← since start, negated, .named c.toString⟩

/-! ### Word boundaries -/

/-- The boundary with a name. -/
def namedBoundary? (name : String) : Option Assertion :=
  match name with
  | "start" => some .wordStart
  | "end" => some .wordEnd
  | "start-half" => some .halfStart
  | "end-half" => some .halfEnd
  | _ => none

/-- A character of the names of boundaries. -/
def isBoundaryChar (c : Char) : Bool :=
  c.isAlpha || c = '-'

/-- Reads the name of a boundary in braces; braces with something else in them are left alone,
since they may be a count. -/
def boundaryName? (start : Place) : Reading (Option Assertion) := do
  let before ← get
  let brace ← here
  if !(← next) then failSince .boundaryUnfinished start
  let first ← here
  if !((← peek).any isBoundaryChar) then
    set before
    return none
  let name ← spanNext isBoundaryChar
  if (← peek) ≠ some '\x7d' then failSince .boundaryUnclosed brace
  let span ← since first
  skip
  match namedBoundary? (String.ofList name) with
  | some kind => return some kind
  | none => fail .boundaryUnknown span

/-- Reads what follows the sign of a boundary. -/
def boundary (start : Place) : Reading Escape := do
  let plain ← since start
  if (← peek) = some '\x7b' then
    match ← boundaryName? start with
    | some kind => return .assertion (← since start) kind
    | none => return .assertion plain .boundary
  else return .assertion plain .boundary

/-! ### Sequences -/

/-- A character that a backslash makes stand for itself. -/
def isEscapable (c : Char) : Bool :=
  c.toNat < 0x80 && !c.isAlphanum && c ≠ '<' && c ≠ '>'

/-- The control character that a letter stands for. -/
def controlChar? : Char → Option Char
  | 'a' => some (Char.ofNat 0x7)
  | 'f' => some (Char.ofNat 0xC)
  | 't' => some '\t'
  | 'n' => some '\n'
  | 'r' => some '\r'
  | 'v' => some (Char.ofNat 0xB)
  | _ => none

/-- The condition that a letter or a mark stands for. -/
def assertion? : Char → Option Assertion
  | 'A' => some .textStart
  | 'z' => some .textEnd
  | 'B' => some .noBoundary
  | '<' => some .wordStart
  | '>' => some .wordEnd
  | _ => none

/-- The class that a letter stands for; a capital letter reverses it. -/
def letterClass? : Char → Option (Bool × LetterClass)
  | 'd' => some (false, .digit)
  | 'D' => some (true, .digit)
  | 's' => some (false, .space)
  | 'S' => some (true, .space)
  | 'w' => some (false, .word)
  | 'W' => some (true, .word)
  | _ => none

/-- Reads a sequence of a backslash and one character. -/
def shortEscape (start : Place) (c : Char) : Reading Escape := do
  skip
  let span ← since start
  if isEscapable c then return .literal ⟨span, c, false⟩
  match letterClass? c, controlChar? c, assertion? c with
  | some (negated, kind), _, _ => return .letter span negated kind
  | _, some char, _ => return .literal ⟨span, char, false⟩
  | _, _, some kind => return .assertion span kind
  | _, _, _ => if c = 'b' then boundary start else fail .escapeUnknown span

/-- Reads an escape sequence. -/
def escape : Reading Escape := do
  let start ← here
  skip
  match ← peek with
  | none => failSince .escapeUnfinished start
  | some c =>
    if c.isDigit then fail .backReference ⟨start, (← charSpan).stop⟩
    else if c = 'x' then characterNumber start 2
    else if c = 'u' then characterNumber start 4
    else if c = 'U' then characterNumber start 8
    else if c = 'p' then property start false
    else if c = 'P' then property start true
    else shortEscape start c

end Reading

end Pattern

end ColumnCast
