import ColumnCast.Pattern.Error

/-!
# Patterns as trees

A `Tree` is a pattern as it is written, each part with its span. Bracketed classes have trees of
their own, `ClassTree`. What the parts stand for depends on flags and is said elsewhere.
-/

namespace ColumnCast

namespace Pattern

/-- A character that stands for itself. A **byte** is written with two hexadecimal digits and
means that byte where characters are bytes. -/
structure Literal where
  span : Span
  char : Char
  isByte : Bool

/-- The classes with a letter of their own. -/
inductive LetterClass where
  | digit
  | space
  | word
  deriving DecidableEq

/-- The classes with an ASCII name. -/
inductive NamedClass where
  | alnum
  | alpha
  | ascii
  | blank
  | cntrl
  | digit
  | graph
  | lower
  | print
  | punct
  | space
  | upper
  | word
  | xdigit
  deriving DecidableEq

namespace NamedClass

/-- The names of the classes. -/
def names : List (String × NamedClass) :=
  [("alnum", alnum), ("alpha", alpha), ("ascii", ascii), ("blank", blank), ("cntrl", cntrl),
    ("digit", digit), ("graph", graph), ("lower", lower), ("print", print), ("punct", punct),
    ("space", space), ("upper", upper), ("word", word), ("xdigit", xdigit)]

/-- The class with a name. -/
def ofName? (name : String) : Option NamedClass :=
  (names.find? fun entry => entry.1 = name).map Prod.snd

end NamedClass

/-- A question about a character's properties: for a single name, or for a name and a value. -/
inductive PropertyQuery where
  | named (name : String)
  | valued (name value : String)
  deriving DecidableEq

/-- The class of the characters with a property, or without it. -/
structure PropertyClass where
  span : Span
  negated : Bool
  query : PropertyQuery

/-- Conditions on a place in a text. -/
inductive Assertion where
  | lineStart
  | lineEnd
  | textStart
  | textEnd
  | boundary
  | noBoundary
  | wordStart
  | wordEnd
  | halfStart
  | halfEnd
  deriving DecidableEq

/-- The operators between classes. -/
inductive ClassOperator where
  | intersection
  | difference
  | symmetricDifference
  deriving DecidableEq

/-- What stands between brackets. -/
inductive ClassTree where
  | literal (l : Literal)
  | range (low high : Literal)
  | named (span : Span) (negated : Bool) (kind : NamedClass)
  | property (p : PropertyClass)
  | letter (span : Span) (negated : Bool) (kind : LetterClass)
  | bracketed (span : Span) (negated : Bool) (body : ClassTree)
  | union (span : Span) (items : List ClassTree)
  | combined (operator : ClassOperator) (left right : ClassTree)

namespace ClassTree

/-- The stretch in which a class is written. -/
def span : ClassTree → Span
  | literal l => l.span
  | range low high => low.span.join high.span
  | named s _ _ | letter s _ _ | bracketed s _ _ | union s _ => s
  | property p => p.span
  | combined _ left right => left.span.join right.span

end ClassTree

/-- The flags of a pattern. -/
inductive Flag where
  | ignoreCase
  | multiLine
  | dotMatchesLineFeed
  | swapGreed
  | unicode
  | carriageReturns
  | verbose
  deriving DecidableEq

namespace Flag

/-- The flag of a letter. -/
def ofChar? : Char → Option Flag
  | 'i' => some ignoreCase
  | 'm' => some multiLine
  | 's' => some dotMatchesLineFeed
  | 'U' => some swapGreed
  | 'u' => some unicode
  | 'R' => some carriageReturns
  | 'x' => some verbose
  | _ => none

end Flag

/-- Flags and whether they are set or cleared. -/
abbrev FlagChanges := List (Flag × Bool)

/-- What a list of changes does to a flag. -/
def FlagChanges.state? (changes : FlagChanges) (flag : Flag) : Option Bool :=
  (changes.find? fun change => change.1 = flag).map Prod.snd

/-- A pattern. -/
inductive Tree where
  | nothing (span : Span)
  | flags (span : Span) (changes : FlagChanges)
  | literal (l : Literal)
  | dot (span : Span)
  | assertion (span : Span) (kind : Assertion)
  | property (p : PropertyClass)
  | letter (span : Span) (negated : Bool) (kind : LetterClass)
  | bracketed (span : Span) (negated : Bool) (body : ClassTree)
  | repeated (span : Span) (least : Nat) (most : Option Nat) (body : Tree)
  | group (span : Span) (changes : FlagChanges) (body : Tree)
  | choice (span : Span) (branches : List Tree)
  | sequence (span : Span) (items : List Tree)

namespace Tree

/-- The stretch in which a pattern is written. -/
def span : Tree → Span
  | nothing s | flags s _ | dot s | assertion s _ | letter s _ _ | bracketed s _ _ => s
  | repeated s _ _ _ | group s _ _ | choice s _ | sequence s _ => s
  | literal l => l.span
  | property p => p.span

/-- Several patterns one after the other. -/
def inSequence (span : Span) : List Tree → Tree
  | [] => nothing span
  | [item] => item
  | items => sequence span items

end Tree

end Pattern

end ColumnCast
