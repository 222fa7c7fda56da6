import ColumnCast.Pattern.Property
import ColumnCast.Pattern.Reader
import ColumnCast.Text.Basic
import ColumnCast.Text.CaseFolding

/-!
# What patterns mean

A `Matcher` says which stretches of a text it matches. The stretches are found for all places at
once: a set of places is a number whose bits are its members, and `Matcher.reach` maps the set of
the places where a stretch begins to the set of those where it ends. `Matcher.occursIn` decides
whether any stretch of a text matches.

`Tree.meaning` is the matcher of a pattern. What a part means depends on the flags that are set
where it stands; flags set inside a group hold up to its end. Where the flag for Unicode is
cleared, classes are made of bytes, and no part may match a byte that is no character.
-/

namespace ColumnCast

/-! ### Matchers -/

namespace Pattern

/-- A condition on the characters before and behind a place, none at the ends of a text. -/
abbrev PlaceTest := Option Char → Option Char → Bool

/-- What is matched: one character of a set, the empty stretch at certain places, and sequences,
choices and repetitions of such. -/
inductive Matcher where
  | nothing
  | char (set : Char → Bool)
  | place (test : PlaceTest)
  | sequence (first second : Matcher)
  | choice (first second : Matcher)
  | repeated (least : Nat) (most : Option Nat) (body : Matcher)

/-! ### Sets of places -/

/-- The places before the characters of a set, counted from `i` on. -/
def placesBefore (set : Char → Bool) : Nat → List Char → Nat
  | _, [] => 0
  | i, c :: rest => (if set c then 1 <<< i else 0) ||| placesBefore set (i + 1) rest

/-- The places that pass a test, counted from `i` on, behind the character `before`. -/
def placesWhere (test : PlaceTest) : Option Char → Nat → List Char → Nat
  | before, i, [] => if test before none then 1 <<< i else 0
  | before, i, c :: rest =>
    (if test before (some c) then 1 <<< i else 0) ||| placesWhere test (some c) (i + 1) rest

/-- `n` steps from a set of places; steps from the empty set lead nowhere. -/
def stepTimes (step : Nat → Nat) : Nat → Nat → Nat
  | 0, places => places
  | n + 1, places => if places = 0 then 0 else stepTimes step n (step places)

/-- Up to `n` steps from a set of places; they end early when they lead nowhere new. -/
def stepUpTo (step : Nat → Nat) : Nat → Nat → Nat
  | 0, places => places
  | n + 1, places =>
    let more := places ||| step places
    if more = places then places else stepUpTo step n more

namespace Matcher

/-- The places where the stretches end that a matcher matches from a set of places on. Within a
text of `n` characters, more than `n + 1` turns of a repetition lead nowhere new. -/
def reach (text : List Char) : Matcher → Nat → Nat
  | nothing, places => places
  | char set, places => (places &&& placesBefore set 0 text) <<< 1
  | place test, places => places &&& placesWhere test none 0 text
  | sequence first second, places => reach text second (reach text first places)
  | choice first second, places => reach text first places ||| reach text second places
  | repeated least most body, places =>
    let enough := text.length + 1
    let begun := stepTimes (reach text body) (min least enough) places
    stepUpTo (reach text body) (min (most.getD (least + enough) - least) enough) begun

/-- A stretch of a text matches. -/
def occursIn (m : Matcher) (text : String) : Bool :=
  let cs := text.toList
  m.reach cs (placesWhere (fun _ _ => true) none 0 cs) ≠ 0

end Matcher

/-! ### Flags -/

/-- The flags that decide what a part means. -/
structure Flags where
  ignoreCase : Bool
  multiLine : Bool
  dotMatchesLineFeed : Bool
  carriageReturns : Bool
  unicode : Bool

namespace Flags

/-- The flags at the beginning of a pattern. -/
def standard : Flags := ⟨false, false, false, false, true⟩

/-- The flags after changes. -/
def change (f : Flags) (changes : FlagChanges) : Flags :=
  { ignoreCase := (changes.state? .ignoreCase).getD f.ignoreCase
    multiLine := (changes.state? .multiLine).getD f.multiLine
    dotMatchesLineFeed := (changes.state? .dotMatchesLineFeed).getD f.dotMatchesLineFeed
    carriageReturns := (changes.state? .carriageReturns).getD f.carriageReturns
    unicode := (changes.state? .unicode).getD f.unicode }

end Flags

/-! ### Sets of characters -/

namespace CharSet

/-- The characters between two others. -/
def range (low high : Char) : CharSet := fun c => low ≤ c && c ≤ high

/-- The characters of either set. -/
def union (a b : CharSet) : CharSet := fun c => a c || b c

/-- The characters that are not in a set. -/
def complement (a : CharSet) : CharSet := fun c => !a c

/-- The set or its complement. -/
def negatedIf (negated : Bool) (a : CharSet) : CharSet := if negated then a.complement else a

/-- The characters of a set in any case. -/
def anyCase (a : CharSet) : CharSet := fun c => a c || (Text.caseVariants c).any a

/-- The characters of a set, of ASCII letters in any case. -/
def anyAsciiCase (a : CharSet) : CharSet := fun c => a c || a c.toLower || a c.toUpper

/-- The set with the characters that count as the same under the flags. -/
def folded (f : Flags) (a : CharSet) : CharSet :=
  if !f.ignoreCase then a else if f.unicode then a.anyCase else a.anyAsciiCase

/-- The bytes that are no ASCII characters. -/
def highBytes : List Char :=
  (List.range 128).map fun n => Char.ofNat (n + 128)

/-- The set, unless it is one of bytes of which some are no ASCII characters. -/
def checked (f : Flags) (span : Span) (a : CharSet) : Except PatternError CharSet :=
  if !f.unicode && highBytes.any a then .error ⟨.strayByte, span⟩ else .ok a

/-- The set of an operator between two. -/
def combine : ClassOperator → CharSet → CharSet → CharSet
  | .intersection, a, b => fun c => a c && b c
  | .difference, a, b => fun c => a c && !b c
  | .symmetricDifference, a, b => fun c => a c != b c

end CharSet

namespace NamedClass

/-- The characters of a class with an ASCII name. -/
def set : NamedClass → CharSet
  | alnum => Char.isAlphanum
  | alpha => Char.isAlpha
  | ascii => fun c => c.toNat < 0x80
  | blank => fun c => c = ' ' || c = '\t'
  | cntrl => fun c => c.toNat < 0x20 || c.toNat = 0x7F
  | digit => Char.isDigit
  | graph => .range '!' '~'
  | lower => Char.isLower
  | print => .range ' ' '~'
  | punct => fun c => CharSet.range '!' '~' c && !c.isAlphanum
  | space => fun c => c = ' ' || (0x9 ≤ c.toNat && c.toNat ≤ 0xD)
  | upper => Char.isUpper
  | word => fun c => c.isAlphanum || c = '_'
  | xdigit => fun c => c.isDigit || ('a' ≤ c && c ≤ 'f') || ('A' ≤ c && c ≤ 'F')

end NamedClass

namespace LetterClass

/-- The characters of a class with a letter of its own. -/
def set (f : Flags) : LetterClass → CharSet
  | digit => if f.unicode then Text.isDigit else NamedClass.digit.set
  | space => if f.unicode then Text.isBlank else NamedClass.space.set
  | word => if f.unicode then Text.isWord else NamedClass.word.set

/-- The characters of such a class or all others. -/
def meaning (f : Flags) (span : Span) (negated : Bool) (k : LetterClass) :
    Except PatternError CharSet :=
  ((k.set f).negatedIf negated).checked f span

end LetterClass

namespace PropertyClass

/-- The characters of a class of properties. -/
def meaning (f : Flags) (p : PropertyClass) : Except PatternError CharSet :=
  if !f.unicode then .error ⟨.wideCharacter, p.span⟩
  else
    match p.query.resolve with
    | .ok set => .ok ((set.folded f).negatedIf p.negated)
    | .error fault => .error ⟨fault, p.span⟩

end PropertyClass

namespace Literal

/-- The character that a literal means inside a class. -/
def inClass (f : Flags) (l : Literal) : Except PatternError Char :=
  if f.unicode || l.char.toNat < 0x80 then .ok l.char
  else .error ⟨if l.isByte then .strayByte else .wideCharacter, l.span⟩

/-- The characters that a literal matches outside of classes. -/
def meaning (f : Flags) (l : Literal) : Except PatternError CharSet :=
  let one : CharSet := fun c => c = l.char
  if f.unicode then .ok (one.folded f)
  else if l.char.toNat < 0x80 then .ok (one.folded f)
  else if l.isByte then .error ⟨.strayByte, l.span⟩
  else .ok one

end Literal

namespace ClassTree

mutual

/-- The characters of a class. -/
def meaning (f : Flags) : ClassTree → Except PatternError CharSet
  | literal l => do
    let c ← l.inClass f
    return fun other => other = c
  | range low high => do
    let low ← low.inClass f
    let high ← high.inClass f
    return .range low high
  | named span negated kind =>
    CharSet.checked f span ((kind.set |> CharSet.folded f).negatedIf negated)
  | property p => p.meaning f
  | letter span negated kind => kind.meaning f span negated
  | bracketed span negated body => do
    let set ← meaning f body
    CharSet.checked f span ((set.folded f).negatedIf negated)
  | union _ items => anyMeaning f items
  | combined operator left right => do
    let left ← meaning f left
    let right ← meaning f right
    return .combine operator (left.folded f) (right.folded f)

/-- The characters of any of several classes. -/
def anyMeaning (f : Flags) : List ClassTree → Except PatternError CharSet
  | [] => .ok fun _ => false
  | item :: items => do
    let first ← meaning f item
    let others ← anyMeaning f items
    return .union first others

end

end ClassTree

/-! ### Places -/

namespace Assertion

/-- A line ends before a place when line feeds and carriage returns end lines. -/
def behindBreak (before behind : Option Char) : Bool :=
  match before with
  | none | some '\n' => true
  | some '\r' => behind ≠ some '\n'
  | _ => false

/-- A line ends behind a place when line feeds and carriage returns end lines. -/
def beforeBreak (before behind : Option Char) : Bool :=
  match behind with
  | none | some '\r' => true
  | some '\n' => before ≠ some '\r'
  | _ => false

/-- The places at which a condition holds. -/
def meaning (f : Flags) : Assertion → PlaceTest
  | textStart => fun before _ => before.isNone
  | textEnd => fun _ behind => behind.isNone
  | lineStart =>
    if !f.multiLine then fun before _ => before.isNone
    else if f.carriageReturns then behindBreak
    else fun before _ => before.all (· = '\n')
  | lineEnd =>
    if !f.multiLine then fun _ behind => behind.isNone
    else if f.carriageReturns then beforeBreak
    else fun _ behind => behind.all (· = '\n')
  | boundary => fun before behind => before.any word != behind.any word
  | noBoundary => fun before behind => before.any word == behind.any word
  | wordStart => fun before behind => !before.any word && behind.any word
  | wordEnd => fun before behind => before.any word && !behind.any word
  | halfStart => fun before _ => !before.any word
  | halfEnd => fun _ behind => !behind.any word
where
  /-- The characters of words. -/
  word : CharSet := LetterClass.word.set f

end Assertion

/-! ### Patterns -/

/-- The characters that a dot matches. -/
def dotMeaning (f : Flags) (span : Span) : Except PatternError CharSet :=
  if !f.unicode then .error ⟨.strayByte, span⟩
  else .ok fun c => f.dotMatchesLineFeed || !(c = '\n' || (f.carriageReturns && c = '\r'))

namespace Tree

mutual

/-- The matcher of a pattern under flags, and the flags behind it. -/
def meaning (f : Flags) : Tree → Except PatternError (Matcher × Flags)
  | nothing _ => .ok (.nothing, f)
  | flags _ changes => .ok (.nothing, f.change changes)
  | literal l => do return (.char (← l.meaning f), f)
  | dot span => do return (.char (← dotMeaning f span), f)
  | assertion _ kind => .ok (.place (kind.meaning f), f)
  | property p => do return (.char (← p.meaning f), f)
  | letter span negated kind => do return (.char (← kind.meaning f span negated), f)
  | bracketed span negated body => do
    let set ← body.meaning f
    return (.char (← CharSet.checked f span ((set.folded f).negatedIf negated)), f)
  | repeated _ least most body => do
    let (m, f) ← meaning f body
    return (.repeated least most m, f)
  | group _ changes body => do
    let (m, _) ← meaning (f.change changes) body
    return (m, f)
  | choice _ [] => .ok (.nothing, f)
  | choice _ (branch :: branches) => do
    let (first, f) ← meaning f branch
    let (others, f) ← meaningOfAny f branches
    return (others.foldl .choice first, f)
  | sequence _ items => do
    let (ms, f) ← meaningOfAny f items
    return (ms.foldr .sequence .nothing, f)

/-- The matchers of several patterns, each under the flags behind the one before. -/
def meaningOfAny (f : Flags) : List Tree → Except PatternError (List Matcher × Flags)
  | [] => .ok ([], f)
  | item :: items => do
    let (m, f) ← meaning f item
    let (ms, f) ← meaningOfAny f items
    return (m :: ms, f)

end

end Tree

namespace Matcher

/-- Reads a pattern. -/
def parse (pattern : String) : Except PatternError Matcher := do
  let tree ← Tree.parse pattern
  let (m, _) ← tree.meaning .standard
  return m

end Matcher

end Pattern

end ColumnCast
