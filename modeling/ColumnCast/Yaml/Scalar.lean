import ColumnCast.Bytes
import ColumnCast.Yaml.Cursor

/-!
# Scalars in a YAML text

Plain, quoted and block scalars. Inside a plain or quoted scalar a line break is folded: one
break becomes a space, and of several all but the first stay. The loops carry a count that is
at least the number of characters left, so it never runs out.
-/

namespace ColumnCast

namespace Yaml

/-! ### Gaps between the words of a scalar -/

/-- The gap between two words: on one line its spaces and tabs, else its line breaks. -/
structure Gap where
  spaces : List Char
  firstBreak : Option Char
  moreBreaks : List Char
  broken : Bool

namespace Gap

/-- What a gap stands for once its line breaks are folded. -/
def text (g : Gap) : List Char :=
  if g.broken then
    match g.firstBreak with
    | some '\n' => if g.moreBreaks.isEmpty then [' '] else g.moreBreaks
    | first => first.toList ++ g.moreBreaks
  else g.spaces

/-- Reads a gap. With `broken` it counts as one after a line break from the start. A tab at the
beginning of a line is refused by `checkTab`. -/
def read (checkTab : Cursor → Except SyntaxError Unit) :
    Nat → Gap → Cursor → Except SyntaxError (Gap × Cursor)
  | 0, g, c => .ok (g, c)
  | fuel + 1, g, c =>
    match c.ahead? 0 with
    | none => .ok (g, c)
    | some x =>
      if isGap x then
        if g.broken then do
          if x = '\t' then checkTab c
          read checkTab fuel g (c.advance 1)
        else read checkTab fuel { g with spaces := g.spaces ++ [x] } (c.advance 1)
      else
        match c.takeBreak? with
        | none => .ok (g, c)
        | some (b, next) =>
          if g.broken then read checkTab fuel { g with moreBreaks := g.moreBreaks ++ [b] } next
          else read checkTab fuel { g with firstBreak := some b, broken := true } next

/-- No gap at all. -/
def none : Gap := ⟨[], .none, [], false⟩

end Gap

/-! ### Plain scalars -/

/-- The indicators of flow collections. -/
def isFlowIndicator (c : Char) : Bool :=
  c = ',' || c = '[' || c = ']' || c = '\x7b' || c = '\x7d'

/-- A word of a plain scalar ends before these characters. -/
def endsPlainWord (flow : Bool) : List Char → Bool
  | [] => true
  | x :: rest =>
    isGap x || isBreak x || (flow && isFlowIndicator x) ||
      (x = ':' && rest.head?.all fun y => isGap y || isBreak y)

/-- In a flow collection a colon may not touch an indicator. -/
def badFlowColon : List Char → Bool
  | ':' :: y :: _ => y = '?' || isFlowIndicator y
  | _ => false

/-- The length of the word of a plain scalar here, and whether a bad colon follows it. -/
def plainWord (flow : Bool) : List Char → Nat × Bool
  | [] => (0, false)
  | x :: rest =>
    if flow && badFlowColon (x :: rest) then (0, true)
    else if endsPlainWord flow (x :: rest) then (0, false)
    else
      let (n, bad) := plainWord flow rest
      (n + 1, bad)

/-- A scalar without quotation marks: its text, the cursor behind it, and whether a line break
separates the two. -/
structure OpenScalar where
  text : List Char
  next : Cursor
  broken : Bool

/-- Reads the words of a plain scalar from here on; `sofar` is the text before and `gap` the gap
since then. -/
def plainWords (flow : Bool) (indent : Int) (start : Mark) :
    Nat → List Char → Gap → Cursor → Except SyntaxError OpenScalar
  | 0, sofar, gap, c => .ok ⟨sofar, c, gap.broken⟩
  | fuel + 1, sofar, gap, c =>
    if c.atDocumentLine || c.sees '#' then .ok ⟨sofar, c, gap.broken⟩
    else
      let (n, bad) := plainWord flow c.rest
      let after := c.advance n
      let sofar := if n = 0 then sofar else sofar ++ gap.text ++ c.rest.take n
      let gap := if n = 0 then gap else Gap.none
      let checkTab (tab : Cursor) : Except SyntaxError Unit :=
        if (tab.mark.column : Int) < indent then
          tab.fail "while scanning a plain scalar" start
            "found a tab character that violates indentation"
        else .ok ()
      if bad then
        after.fail "while scanning a plain scalar" start "found unexpected ':'"
      else if !after.atChar 0 (fun x => isGap x || isBreak x) then .ok ⟨sofar, after, gap.broken⟩
      else do
        let (gap, next) ← Gap.read checkTab (after.rest.length + 1) gap after
        if !flow && (next.mark.column : Int) < indent then return ⟨sofar, next, gap.broken⟩
        plainWords flow indent start fuel sofar gap next

/-- Reads a plain scalar whose lines after the first are indented by at least `indent`. -/
def plainScalar (flow : Bool) (indent : Int) (c : Cursor) : Except SyntaxError OpenScalar :=
  plainWords flow indent c.mark (c.rest.length + 1) [] Gap.none c

/-! ### Quoted scalars -/

/-- What the letter after a backslash stands for, when it stands for one character. -/
def escapeLetter? (c : Char) : Option Char :=
  match c with
  | '0' => some (Char.ofNat 0)
  | 'a' => some (Char.ofNat 7)
  | 'b' => some (Char.ofNat 8)
  | 't' | '\t' => some '\t'
  | 'n' => some '\n'
  | 'v' => some (Char.ofNat 0xB)
  | 'f' => some (Char.ofNat 0xC)
  | 'r' => some '\r'
  | 'e' => some (Char.ofNat 0x1B)
  | ' ' => some ' '
  | '"' => some '"'
  | '/' => some '/'
  | '\\' => some '\\'
  | 'N' => some (Char.ofNat 0x85)
  | '_' => some (Char.ofNat 0xA0)
  | 'L' => some (Char.ofNat 0x2028)
  | 'P' => some (Char.ofNat 0x2029)
  | _ => none

/-- How many hexadecimal digits follow the letter after a backslash. -/
def escapeDigits? (c : Char) : Option Nat :=
  match c with
  | 'x' => some 2
  | 'u' => some 4
  | 'U' => some 8
  | _ => none

/-- The character of a code point that is not a surrogate. -/
def codePoint? (n : Nat) : Option Char :=
  if n.isValidChar then some (Char.ofNat n) else none

/-- What is wrong with a quoted scalar. -/
def quotedContext : String := "while parsing a quoted scalar"

/-- Reads an escape; the cursor stands before the backslash. -/
def readEscape (start : Mark) (c : Cursor) : Except SyntaxError (Char × Cursor) :=
  match c.ahead? 1 with
  | none => c.fail quotedContext start "found unknown escape character"
  | some letter =>
    match escapeLetter? letter, escapeDigits? letter with
    | some x, _ => .ok (x, c.advance 2)
    | none, none => c.fail quotedContext start "found unknown escape character"
    | none, some n =>
      let digits := (c.advance 2).rest.take n
      match if digits.length = n then Hex.number? digits else none with
      | none => (c.advance 2).fail quotedContext start "did not find expected hexdecimal number"
      | some code =>
        match codePoint? code with
        | some x => .ok (x, c.advance (2 + n))
        | none =>
          (c.advance 2).fail quotedContext start "found invalid Unicode character escape code"

/-- The quotation mark of the two quoted styles. -/
def quotation (single : Bool) : Char :=
  if single then Char.ofNat 39 else '"'

/-- Reads a word of a quoted scalar, up to a gap, a line break or the closing mark; `sofar` is
the text before it in reverse. The last component says that an escaped line break ended it. -/
def quotedWord (single : Bool) (start : Mark) :
    Nat → List Char → Cursor → Except SyntaxError (List Char × Cursor × Bool)
  | 0, sofar, c => .ok (sofar, c, false)
  | fuel + 1, sofar, c =>
    match c.ahead? 0 with
    | none => .ok (sofar, c, false)
    | some x =>
      if isGap x || isBreak x then .ok (sofar, c, false)
      else if x = quotation single then
        if single && c.atChar 1 (· = x) then quotedWord single start fuel (x :: sofar) (c.advance 2)
        else .ok (sofar, c, false)
      else if !single && x = '\\' then
        if c.atChar 1 isBreak then .ok (sofar, (c.advance 1).skipBreak, true)
        else do
          let (y, next) ← readEscape start c
          quotedWord single start fuel (y :: sofar) next
      else quotedWord single start fuel (x :: sofar) (c.advance 1)

/-- Reads the words of a quoted scalar up to and with the closing mark; `sofar` is the text
before in reverse. -/
def quotedWords (single : Bool) (start : Mark) :
    Nat → List Char → Cursor → Except SyntaxError (List Char × Cursor)
  | 0, sofar, c => .ok (sofar, c)
  | fuel + 1, sofar, c => do
    let context := "while scanning a quoted scalar"
    if c.atDocumentLine then c.fail context start "found unexpected document indicator"
    else if c.atEnd then c.fail context start "found unexpected end of stream"
    else
      let (sofar', after, escaped) ← quotedWord single start (c.rest.length + 1) sofar c
      if after.sees (quotation single) then return (sofar', after.advance 1)
      let (gap, next) ← Gap.read (fun _ => .ok ()) (after.rest.length + 1)
        { Gap.none with broken := escaped } after
      quotedWords single start fuel (gap.text.reverse ++ sofar') next

/-- Reads a quoted scalar; the cursor stands before the opening mark. -/
def quotedScalar (single : Bool) (c : Cursor) : Except SyntaxError (List Char × Cursor) := do
  let (sofar, next) ← quotedWords single c.mark (c.rest.length + 2) [] (c.advance 1)
  return (sofar.reverse, next)

/-! ### Block scalars -/

/-- What happens to the line breaks at the end of a block scalar. -/
inductive Chomping where
  | strip
  | clip
  | keep
  deriving DecidableEq

/-- The chomping that an indicator asks for. -/
def chomping? : Option Char → Option Chomping
  | some '+' => some .keep
  | some '-' => some .strip
  | _ => none

/-- What is wrong with a block scalar. -/
def blockContext : String := "while scanning a block scalar"

/-- Reads an indentation indicator, if one follows. -/
def indentIndicator (start : Mark) (c : Cursor) : Except SyntaxError (Option Nat × Cursor) :=
  match c.ahead? 0 with
  | some x =>
    if x = '0' then
      c.fail blockContext start "found an indentation indicator equal to 0"
    else if x.isDigit then .ok (some (x.toNat - '0'.toNat), c.advance 1)
    else .ok (none, c)
  | none => .ok (none, c)

/-- Reads the indicators of a block scalar, in either order. -/
def blockIndicators (start : Mark) (c : Cursor) :
    Except SyntaxError (Chomping × Option Nat × Cursor) :=
  match chomping? (c.ahead? 0) with
  | some chomping => do
    let (indent, next) ← indentIndicator start (c.advance 1)
    return (chomping, indent, next)
  | none => do
    let (indent, next) ← indentIndicator start c
    if indent.isSome then
      match chomping? (next.ahead? 0) with
      | some chomping => return (chomping, indent, next.advance 1)
      | none => return (.clip, indent, next)
    else return (.clip, none, next)

/-- Reads the indentation and the empty lines before a line of a block scalar. `indent` is zero
as long as it is not known; the deepest indentation seen and the line breaks are returned. -/
def blockBreaks (start : Mark) (indent : Nat) :
    Nat → Nat → List Char → Cursor → Except SyntaxError (Nat × List Char × Cursor)
  | 0, deepest, breaks, c => .ok (deepest, breaks, c)
  | fuel + 1, deepest, breaks, c =>
    let spaces := (c.rest.takeWhile (· = ' ')).length
    let c := c.advance (if indent = 0 then spaces else min spaces (indent - c.mark.column))
    let deepest := max deepest c.mark.column
    if (indent = 0 || c.mark.column < indent) && c.sees '\t' then
      c.fail blockContext start
        "found a tab character where an indentation space is expected"
    else
      match c.takeBreak? with
      | none => .ok (deepest, breaks, c)
      | some (b, next) => blockBreaks start indent fuel deepest (breaks ++ [b]) next

/-- What stands between two lines of a block scalar. A folded line break between two lines that
do not begin with a gap becomes a space, or nothing when empty lines follow it. -/
def joinLines (folded : Bool) (lineBreak : Option Char) (breaks : List Char)
    (afterGap beforeGap : Bool) : List Char :=
  if folded && lineBreak = some '\n' && !afterGap && !beforeGap then
    (if breaks.isEmpty then [' '] else []) ++ breaks
  else lineBreak.toList ++ breaks

/-- Reads the lines of a block scalar; `sofar` is the text before, `lineBreak` and `breaks` are
the line breaks since then. -/
def blockLines (folded : Bool) (start : Mark) (indent : Nat) (chomping : Chomping) :
    Nat → List Char → Option Char → List Char → Bool → Cursor → Except SyntaxError OpenScalar
  | 0, sofar, _, _, _, c => .ok ⟨sofar, c, true⟩
  | fuel + 1, sofar, lineBreak, breaks, afterGap, c =>
    if c.mark.column = indent && !c.atEnd then do
      let beginsWithGap := c.atChar 0 isGap
      let (line, after) := c.spanWhile (!isBreak ·)
      let sofar := sofar ++ joinLines folded lineBreak breaks afterGap beginsWithGap ++ line
      let (lineBreak, next) :=
        match after.takeBreak? with
        | some (b, next) => (some b, next)
        | none => (none, after)
      let (_, breaks, next) ← blockBreaks start indent (next.rest.length + 1) 0 [] next
      blockLines folded start indent chomping fuel sofar lineBreak breaks beginsWithGap next
    else
      let tail :=
        match chomping with
        | .strip => []
        | .clip => lineBreak.toList
        | .keep => lineBreak.toList ++ breaks
      .ok ⟨sofar ++ tail, c, true⟩

/-- Reads a block scalar; the cursor stands before its indicator and `parent` is the
indentation of the collection that holds it. -/
def blockScalar (folded : Bool) (parent : Int) (c : Cursor) : Except SyntaxError OpenScalar := do
  let start := c.mark
  let (chomping, increment, c) ← blockIndicators start (c.advance 1)
  let c := (c.skipWhile isGap).skipComment
  if !c.endsLine then
    c.fail blockContext start "did not find expected comment or line break"
  else
    let c := c.skipBreak
    let stated : Nat :=
      match increment with
      | some n => if 0 ≤ parent then parent.toNat + n else n
      | none => 0
    let (deepest, breaks, c) ← blockBreaks start stated (c.rest.length + 1) 0 [] c
    let indent := if stated = 0 then max (max deepest (parent + 1).toNat) 1 else stated
    blockLines folded start indent chomping (c.rest.length + 1) [] none breaks false c

end Yaml

end ColumnCast
