import ColumnCast.Bytes
import ColumnCast.Yaml.Cursor
import ColumnCast.Yaml.Scalar

/-!
# From text to tokens

`tokens` cuts a YAML text into tokens. Indentation appears as tokens of its own: the start of a
block collection and its end. Whether a scalar is the key of a mapping shows only at the colon
after it, so the lexer remembers where a key may have begun and puts the key's token, and the
start of its mapping, in front of it afterwards.
-/

namespace ColumnCast

/-! ### Tokens -/

namespace Yaml

/-- How a scalar is written. -/
inductive ScalarStyle where
  | plain
  | singleQuoted
  | doubleQuoted
  | literal
  | folded
  deriving DecidableEq

/-- What a token is. -/
inductive TokenKind where
  | streamEnd
  | versionDirective (major minor : Nat)
  | tagDirective (handle stem : String)
  | documentStart
  | documentEnd
  | blockSequenceStart
  | blockMappingStart
  | blockEnd
  | flowSequenceStart
  | flowSequenceEnd
  | flowMappingStart
  | flowMappingEnd
  | blockEntry
  | flowEntry
  | key
  | value
  | aliasTo (name : String)
  | anchor (name : String)
  | tag (handle suffix : String)
  | scalar (text : String) (style : ScalarStyle)
  deriving DecidableEq

/-- A token and the place where it begins. -/
structure Token where
  kind : TokenKind
  mark : Mark

/-! ### The lexer -/

/-- A place where a key without an indicator may begin: the number of tokens before it, and
whether the indentation leaves nothing else than a key there. -/
structure KeyCandidate where
  required : Bool
  position : Nat
  mark : Mark

/-- The state of the lexer. `tokens` is in reverse; `candidates` has an entry for the block
level and each open flow collection, the innermost first. -/
structure Lexer where
  cursor : Cursor
  tokens : List Token
  count : Nat
  candidate : Option KeyCandidate
  outer : List (Option KeyCandidate)
  indent : Int
  indents : List Int
  keyAllowed : Bool

namespace Lexer

/-- The state before a text. -/
def start (cs : List Char) : Lexer :=
  { cursor := ⟨cs, Mark.start⟩
    tokens := []
    count := 0
    candidate := none
    outer := []
    indent := -1
    indents := []
    keyAllowed := true }

/-- The lexer is inside a flow collection. -/
def inFlow (s : Lexer) : Bool :=
  !s.outer.isEmpty

/-- The lexer has this token behind it. -/
def push (s : Lexer) (kind : TokenKind) (mark : Mark) : Lexer :=
  { s with tokens := ⟨kind, mark⟩ :: s.tokens, count := s.count + 1 }

/-- Puts a token behind the first `position` ones. -/
def insert (s : Lexer) (position : Nat) (kind : TokenKind) (mark : Mark) : Lexer :=
  let (later, earlier) := s.tokens.splitAt (s.count - position)
  { s with tokens := later ++ ⟨kind, mark⟩ :: earlier, count := s.count + 1 }

/-- The token at the cursor, `n` characters long. -/
def pushHere (s : Lexer) (kind : TokenKind) (n : Nat) : Lexer :=
  { s.push kind s.cursor.mark with cursor := s.cursor.advance n }

/-! ### Keys -/

/-- A key that had to follow did not. -/
def missingColon (c : Cursor) (key : KeyCandidate) : Except SyntaxError Lexer :=
  c.fail "while scanning a simple key" key.mark "could not find expected ':'"

/-- Forgets the candidate of this level; one that is required must not be forgotten. -/
def dropCandidate (s : Lexer) : Except SyntaxError Lexer :=
  match s.candidate with
  | some key => if key.required then missingColon s.cursor key else .ok { s with candidate := none }
  | none => .ok s

/-- Remembers that a key may begin at the cursor. -/
def saveCandidate (s : Lexer) : Except SyntaxError Lexer :=
  if s.keyAllowed then do
    let required := !s.inFlow && s.indent = s.cursor.mark.column
    let s ← s.dropCandidate
    return { s with candidate := some ⟨required, s.count, s.cursor.mark⟩ }
  else .ok s

/-- A key stands on one line and takes at most 1024 characters. -/
def isStale (c : Cursor) (key : KeyCandidate) : Bool :=
  key.mark.line < c.mark.line || key.mark.index + 1024 < c.mark.index

/-- Forgets the candidates that can no longer be keys. -/
def dropStale (s : Lexer) : Except SyntaxError Lexer := do
  let check : Option KeyCandidate → Except SyntaxError (Option KeyCandidate)
    | none => .ok none
    | some key =>
      if isStale s.cursor key then
        if key.required then
          s.cursor.fail "while scanning a simple key" key.mark "could not find expected ':'"
        else .ok none
      else .ok (some key)
  let outer ← s.outer.mapM check
  let candidate ← check s.candidate
  return { s with candidate, outer }

/-! ### Indentation -/

/-- Opens a block collection at a column deeper than the current one. Its token goes behind the
first `position` tokens. -/
def openBlock (s : Lexer) (column position : Nat) (kind : TokenKind) (mark : Mark) : Lexer :=
  if s.inFlow then s
  else if s.indent < column then
    { s.insert position kind mark with indent := column, indents := s.indent :: s.indents }
  else s

/-- Closes the block collections of the stack that are deeper than the column. -/
def closeBlocks (column : Int) (mark : Mark) : List Int → Lexer → Lexer
  | [], s => s
  | outer :: rest, s =>
    if column < s.indent then
      closeBlocks column mark rest { s.push .blockEnd mark with indent := outer, indents := rest }
    else s

/-- Closes the block collections that are deeper than the column. -/
def closeTo (s : Lexer) (column : Int) : Lexer :=
  if s.inFlow then s else closeBlocks column s.cursor.mark s.indents s

/-! ### Between tokens -/

/-- Moves over blanks, comments and line breaks. A tab cannot stand where a key may begin in a
block collection. -/
def skipToToken : Nat → Lexer → Lexer
  | 0, s => s
  | fuel + 1, s =>
    let skipped := s.cursor.skipWhile fun x =>
      x = ' ' || (x = '\t' && (s.inFlow || !s.keyAllowed))
    let c := skipped.skipComment
    match c.takeBreak? with
    | some (_, next) =>
      skipToToken fuel { s with cursor := next, keyAllowed := s.keyAllowed || !s.inFlow }
    | none => { s with cursor := c }

/-! ### Directives and tags -/

/-- What is wrong with a directive. -/
def directiveContext : String := "while scanning a directive"

/-- What is wrong with the numbers of a version. -/
def versionContext : String := "while scanning a %YAML directive"

/-- Reads one number of a version. -/
def versionNumber (mark : Mark) (c : Cursor) : Except SyntaxError (Nat × Cursor) :=
  let (digits, next) := c.spanWhile Char.isDigit
  if digits = [] then c.fail versionContext mark "did not find expected version number"
  else if 9 < digits.length then
    c.fail versionContext mark "found extremely long version number"
  else .ok (Nat.ofDigitChars 10 digits 0, next)

/-- Reads the version of a `%YAML` directive. -/
def version (mark : Mark) (c : Cursor) : Except SyntaxError (TokenKind × Cursor) := do
  let (major, c) ← versionNumber mark (c.skipWhile isGap)
  if !c.sees '.' then
    c.fail versionContext mark "did not find expected digit or '.' character"
  else
    let (minor, c) ← versionNumber mark (c.advance 1)
    return (.versionDirective major minor, c)

/-- Reads a tag handle: `!`, or word characters between two of them. In a tag the second one
may be missing, which makes the word part of the tag's suffix. -/
def tagHandle (directive : Bool) (mark : Mark) (c : Cursor) :
    Except SyntaxError (List Char × Cursor) :=
  let context := if directive then "while scanning a tag directive" else "while scanning a tag"
  if !c.sees '!' then c.fail context mark "did not find expected '!'"
  else
    let (word, next) := (c.advance 1).spanWhile isWordChar
    if next.sees '!' then .ok ('!' :: word ++ ['!'], next.advance 1)
    else if directive && word ≠ [] then
      next.fail "while parsing a tag directive" mark "did not find expected '!'"
    else .ok ('!' :: word, next)

/-- The characters of tag suffixes; flow indicators count only in verbatim tags. -/
def isTagChar (verbatim : Bool) (c : Char) : Bool :=
  isWordChar c || ";/?:@&=+$.%!~*()".toList.contains c || c = Char.ofNat 39 ||
    (verbatim && (c = ',' || c = '[' || c = ']'))

/-- Replaces the escapes of a tag suffix, a percent sign and two hexadecimal digits for each
byte, by the bytes. -/
def tagBytes? : List Char → Option Bytes
  | [] => some []
  | '%' :: high :: low :: rest =>
    match Hex.decode? [high, low], tagBytes? rest with
    | some byte, some bytes => some (byte ++ bytes)
    | _, _ => none
  | '%' :: _ => none
  | c :: rest => (tagBytes? rest).map (Utf8.encode [c] ++ ·)

/-- Reads a tag suffix; `head` is what a handle that is none leaves of it. -/
def tagSuffix (verbatim directive : Bool) (head : List Char) (mark : Mark) (c : Cursor) :
    Except SyntaxError (List Char × Cursor) :=
  let context := if directive then "while parsing a %TAG directive" else "while parsing a tag"
  let (chars, next) := c.spanWhile (isTagChar verbatim)
  if head = [] ∧ chars = [] then c.fail context mark "did not find expected tag URI"
  else
    match tagBytes? chars >>= Utf8.decode? with
    | some suffix => .ok (head.drop 1 ++ suffix, next)
    | none => c.fail context mark "did not find URI escaped octet"

/-- Reads the handle and the stem of a `%TAG` directive. -/
def tagStem (mark : Mark) (c : Cursor) : Except SyntaxError (TokenKind × Cursor) := do
  let context := "while scanning a %TAG directive"
  let (handle, c) ← tagHandle true mark (c.skipWhile isGap)
  if !c.atChar 0 isGap then c.fail context mark "did not find expected whitespace"
  else
    let (stem, c) ← tagSuffix true true [] mark (c.skipWhile isGap)
    if !c.endsWord 0 then
      c.fail context mark "did not find expected whitespace or line break"
    else return (.tagDirective (String.ofList handle) (String.ofList stem), c)

/-- Reads a directive; the cursor stands before its percent sign. -/
def directive (c : Cursor) : Except SyntaxError (TokenKind × Cursor) := do
  let mark := c.mark
  let (name, c) := (c.advance 1).spanWhile isWordChar
  if name = [] then c.fail directiveContext mark "could not find expected directive name"
  else if !c.endsWord 0 then
    c.fail directiveContext mark "found unexpected non-alphabetical character"
  else
    let (kind, c) ←
      if name = "YAML".toList then version mark c
      else if name = "TAG".toList then tagStem mark c
      else c.fail directiveContext mark "found unknown directive name"
    let c := (c.skipWhile isGap).skipComment
    if !c.endsLine then
      c.fail directiveContext mark "did not find expected comment or line break"
    else return (kind, c.skipBreak)

/-- Reads the name of an anchor or an alias; the cursor stands before its indicator. -/
def anchorName (context : String) (c : Cursor) : Except SyntaxError (String × Cursor) :=
  let (name, next) := (c.advance 1).spanWhile isWordChar
  if name = [] ∨ !(next.endsWord 0 || next.atChar 0 "?:,]\x7d%@\x60".toList.contains) then
    next.fail context c.mark "did not find expected alphabetic or numeric character"
  else .ok (String.ofList name, next)

/-- Reads a tag; the cursor stands before its exclamation mark. A lone one is a suffix without
a handle. -/
def tag (inFlow : Bool) (c : Cursor) : Except SyntaxError (TokenKind × Cursor) := do
  let mark := c.mark
  let context := "while scanning a tag"
  let (handle, suffix, next) ←
    if c.atChar 1 (· = '<') then do
      let (suffix, next) ← tagSuffix true false [] mark (c.advance 2)
      if next.sees '>' then pure ([], suffix, next.advance 1)
      else next.fail context mark "did not find the expected '>'"
    else do
      let (handle, next) ← tagHandle false mark c
      if 1 < handle.length ∧ handle.getLast? = some '!' then do
        let (suffix, next) ← tagSuffix false false [] mark next
        pure (handle, suffix, next)
      else do
        let (suffix, next) ← tagSuffix false false handle mark next
        pure (if suffix = [] then ([], ['!'], next) else (['!'], suffix, next))
  if next.endsWord 0 || (inFlow && next.sees ',') then
    return (.tag (String.ofList handle) (String.ofList suffix), next)
  else next.fail context mark "did not find expected whitespace or line break"

/-! ### One token -/

/-- Begins or ends a document. -/
def takeDocumentLine (s : Lexer) (kind : TokenKind) : Except SyntaxError Lexer := do
  let s ← (s.closeTo (-1)).dropCandidate
  return { s.pushHere kind 3 with keyAllowed := false }

/-- Reads a directive. -/
def takeDirective (s : Lexer) : Except SyntaxError Lexer := do
  let s ← (s.closeTo (-1)).dropCandidate
  let (kind, next) ← directive s.cursor
  return { s.push kind s.cursor.mark with cursor := next, keyAllowed := false }

/-- Opens a flow collection. -/
def openFlow (s : Lexer) (kind : TokenKind) : Except SyntaxError Lexer := do
  let s ← s.saveCandidate
  let s := { s with outer := s.candidate :: s.outer, candidate := none }
  return { s.pushHere kind 1 with keyAllowed := true }

/-- Closes a flow collection. -/
def closeFlow (s : Lexer) (kind : TokenKind) : Except SyntaxError Lexer := do
  let s ← s.dropCandidate
  let s :=
    match s.outer with
    | candidate :: rest => { s with candidate, outer := rest }
    | [] => s
  return { s.pushHere kind 1 with keyAllowed := false }

/-- Goes on to the next entry of a flow collection. -/
def takeFlowEntry (s : Lexer) : Except SyntaxError Lexer := do
  let s ← s.dropCandidate
  return { s.pushHere .flowEntry 1 with keyAllowed := true }

/-- Begins an entry of a block sequence. -/
def takeBlockEntry (s : Lexer) : Except SyntaxError Lexer := do
  if !s.inFlow && !s.keyAllowed then
    s.cursor.failHere "block sequence entries are not allowed in this context"
  else
    let s := s.openBlock s.cursor.mark.column s.count .blockSequenceStart s.cursor.mark
    let s ← s.dropCandidate
    return { s.pushHere .blockEntry 1 with keyAllowed := true }

/-- Begins a key that has an indicator. -/
def takeKey (s : Lexer) : Except SyntaxError Lexer := do
  if !s.inFlow && !s.keyAllowed then
    s.cursor.failHere "mapping keys are not allowed in this context"
  else
    let s := s.openBlock s.cursor.mark.column s.count .blockMappingStart s.cursor.mark
    let s ← s.dropCandidate
    return { s.pushHere .key 1 with keyAllowed := !s.inFlow }

/-- Begins a value, and makes the candidate of this level a key. -/
def takeValue (s : Lexer) : Except SyntaxError Lexer :=
  match s.candidate with
  | some key =>
    let s := s.insert key.position .key key.mark
    let s := s.openBlock key.mark.column key.position .blockMappingStart key.mark
    .ok { s.pushHere .value 1 with candidate := none, keyAllowed := false }
  | none =>
    if !s.inFlow && !s.keyAllowed then
      s.cursor.failHere "mapping values are not allowed in this context"
    else
      let s := s.openBlock s.cursor.mark.column s.count .blockMappingStart s.cursor.mark
      .ok { s.pushHere .value 1 with keyAllowed := !s.inFlow }

/-- Reads an anchor or an alias. -/
def takeAnchor (s : Lexer) (context : String) (kind : String → TokenKind) :
    Except SyntaxError Lexer := do
  let s ← s.saveCandidate
  let (name, next) ← anchorName context s.cursor
  return { s.push (kind name) s.cursor.mark with cursor := next, keyAllowed := false }

/-- Reads a tag. -/
def takeTag (s : Lexer) : Except SyntaxError Lexer := do
  let s ← s.saveCandidate
  let (kind, next) ← tag s.inFlow s.cursor
  return { s.push kind s.cursor.mark with cursor := next, keyAllowed := false }

/-- Reads a block scalar. -/
def takeBlockScalar (s : Lexer) (folded : Bool) : Except SyntaxError Lexer := do
  let s ← s.dropCandidate
  let scalar ← blockScalar folded s.indent s.cursor
  let style := if folded then ScalarStyle.folded else .literal
  return { s.push (.scalar (String.ofList scalar.text) style) s.cursor.mark with
    cursor := scalar.next, keyAllowed := true }

/-- Reads a quoted scalar. -/
def takeQuoted (s : Lexer) (single : Bool) : Except SyntaxError Lexer := do
  let s ← s.saveCandidate
  let (text, next) ← quotedScalar single s.cursor
  let style := if single then ScalarStyle.singleQuoted else .doubleQuoted
  return { s.push (.scalar (String.ofList text) style) s.cursor.mark with
    cursor := next, keyAllowed := false }

/-- Reads a plain scalar; a key may begin after it when a line break follows it. -/
def takePlain (s : Lexer) : Except SyntaxError Lexer := do
  let s ← s.saveCandidate
  let scalar ← plainScalar s.inFlow (s.indent + 1) s.cursor
  return { s.push (.scalar (String.ofList scalar.text) .plain) s.cursor.mark with
    cursor := scalar.next, keyAllowed := scalar.broken }

/-- The characters that cannot begin a plain scalar without more. -/
def indicators : List Char :=
  Char.ofNat 39 :: Char.ofNat 0x60 :: "-?:,[]\x7b\x7d#&*!|>\"%@".toList

/-- A plain scalar begins at the cursor. -/
def beginsPlain (s : Lexer) : Bool :=
  let c := s.cursor
  match c.ahead? 0 with
  | none => false
  | some x =>
    !(isGap x || isBreak x || indicators.contains x) ||
      (x = '-' && !c.atChar 1 isGap) ||
      (!s.inFlow && (x = '?' || x = ':') && !c.endsWord 1)

/-- Ends the text, on a line of its own. -/
def finish (s : Lexer) : Except SyntaxError Lexer := do
  let m := s.cursor.mark
  let m := if m.column = 0 then m else ⟨m.index, m.line + 1, 0⟩
  let s ← ({ s with cursor := ⟨[], m⟩ }.closeTo (-1)).dropCandidate
  return s.push .streamEnd m

/-- Reads the token at the cursor. -/
def takeToken (s : Lexer) : Except SyntaxError Lexer :=
  let c := s.cursor
  match c.ahead? 0 with
  | none => s.finish
  | some x =>
    if c.mark.column = 0 && x = '%' then s.takeDirective
    else if c.atIndicator '-' then s.takeDocumentLine .documentStart
    else if c.atIndicator '.' then s.takeDocumentLine .documentEnd
    else if x = '[' then s.openFlow .flowSequenceStart
    else if x = '\x7b' then s.openFlow .flowMappingStart
    else if x = ']' then s.closeFlow .flowSequenceEnd
    else if x = '\x7d' then s.closeFlow .flowMappingEnd
    else if x = ',' then s.takeFlowEntry
    else if x = '-' && c.endsWord 1 then s.takeBlockEntry
    else if x = '?' && (s.inFlow || c.endsWord 1) then s.takeKey
    else if x = ':' && (s.inFlow || c.endsWord 1) then s.takeValue
    else if x = '*' then s.takeAnchor "while scanning an alias" .aliasTo
    else if x = '&' then s.takeAnchor "while scanning an anchor" .anchor
    else if x = '!' then s.takeTag
    else if x = '|' && !s.inFlow then s.takeBlockScalar false
    else if x = '>' && !s.inFlow then s.takeBlockScalar true
    else if x = Char.ofNat 39 then s.takeQuoted true
    else if x = '"' then s.takeQuoted false
    else if s.beginsPlain then s.takePlain
    else
      c.fail "while scanning for the next token" c.mark
        "found character that cannot start any token"

/-- The tokens whose place is settled: those before the first one that may still turn out to
begin a key. -/
def settled (s : Lexer) : List Token :=
  let pending := (s.candidate :: s.outer).filterMap fun candidate =>
    candidate.filter fun key => !isStale s.cursor key
  s.tokens.reverse.take ((pending.map KeyCandidate.position).foldl min s.count)

/-- Reads the next token, with the ends of blocks before it. The flag says that it is the last
one. -/
def step (s : Lexer) : Except SyntaxError (Lexer × Bool) := do
  let s ← (skipToToken (s.cursor.rest.length + 1) s).dropStale
  let last := s.cursor.atEnd
  return (← (s.closeTo s.cursor.mark.column).takeToken, last)

/-- Reads tokens up to the end of the text or to an error. Every token takes at least one
character, so a count above the length of the text is enough. -/
def run : Nat → Lexer → List Token × Option SyntaxError
  | 0, s => (s.tokens.reverse, none)
  | count + 1, s =>
    match s.step with
    | .error e => (s.settled, some e)
    | .ok (next, true) => (next.tokens.reverse, none)
    | .ok (next, false) => run count next

end Lexer

/-- The tokens of a text, up to the first error if there is one. A byte order mark may begin
the text. -/
def tokens (text : String) : List Token × Option SyntaxError :=
  let cs := text.toList
  let cs := if cs.head? = some byteOrderMark then cs.drop 1 else cs
  if cs.all isAllowed then
    let s := Lexer.start cs
    let c := if s.cursor.sees byteOrderMark then s.cursor.advance 1 else s.cursor
    Lexer.run (cs.length + 2) { s with cursor := c }
  else ([], some ⟨"control characters are not allowed", Mark.start, none⟩)

end Yaml

end ColumnCast
