import ColumnCast.Pattern.Reader.Class
import ColumnCast.Text.Category

/-!
# Reading patterns

`Tree.parse` reads a pattern as a tree or reports its first error from left to right; only a
nesting that is too deep is reported after everything else.
-/

namespace ColumnCast

namespace Pattern

namespace Reading

/-! ### Repetition -/

/-- The last of the parts read so far, which an operator at a place repeats, and the parts
before it. -/
def operand (items : List Tree) : Reading (Tree × List Tree) :=
  match items with
  | [] | .flags _ _ :: _ => failHere .repetitionOfNothing
  | item :: before => return (item, before)

/-- Moves over the mark that makes a repetition prefer fewer turns. -/
def skipLazy : Reading Unit := do
  if (← peek) = some '?' then skip

/-- The parts with the last one repeated up to the place that reading has come to. -/
def repeated (item : Tree) (before : List Tree) (least : Nat) (most : Option Nat) :
    Reading (List Tree) := do
  return .repeated ⟨item.span.start, ← here⟩ least most item :: before

/-- Reads an operator of one character. -/
def mark (items : List Tree) (least : Nat) (most : Option Nat) : Reading (List Tree) := do
  let (item, before) ← operand items
  skip
  skipLazy
  repeated item before least most

/-- Reads a count; what is wrong with it is returned. -/
def count : Reading (Except PatternError Nat) := do
  let s ← get
  set (s.advanceBy (s.rest.takeWhile Text.isBlank).length)
  let start ← here
  let digits ← spanNext Char.isDigit
  let span ← since start
  let _ ← spanNext Text.isBlank
  let n := Nat.ofDigitChars 10 digits 0
  return if digits = [] then .error ⟨.repetitionCount, span⟩
    else if n < UInt32.size then .ok n
    else .error ⟨.countInvalid, span⟩

/-- Reads the counts in braces behind the opening one. -/
def countRange (start : Place) : Reading (Nat × Option Nat) := do
  let least ← count
  match ← peek with
  | none => failSince .repetitionUnclosed start
  | some ',' =>
    if !(← next) then failSince .repetitionUnclosed start
    if (← peek) = some '\x7d' then return (← liftExcept least, none)
    else
      let least ← liftExcept least
      return (least, some (← liftExcept (← count)))
  | some _ =>
    let least ← liftExcept least
    return (least, some least)
where
  /-- A count without an error. -/
  liftExcept (n : Except PatternError Nat) : Reading Nat :=
    match n with
    | .ok n => return n
    | .error e => throw e

/-- Reads a count of turns in braces. -/
def counted (items : List Tree) : Reading (List Tree) := do
  let start ← here
  let (item, before) ← operand items
  if !(← next) then failSince .repetitionUnclosed start
  let (least, most) ← countRange start
  if (← peek) ≠ some '\x7d' then failSince .repetitionUnclosed start
  if ← next then skipLazy
  if most.any (· < least) then failSince .repetitionRange start
  repeated item before least most

/-! ### Groups -/

/-- A character that the name of a group may begin with. -/
def isNameStart (c : Char) : Bool :=
  c = '_' || Text.isLetter c

/-- A character that may stand inside the name of a group. -/
def isNamePart (c : Char) : Bool :=
  c = '_' || c = '.' || c = '[' || c = ']' || Text.isLetter c ||
    Category.numbers.any (fun k => k.contains c)

/-- The name that a text begins with. -/
def leadingName : List Char → List Char
  | [] => []
  | c :: rest => if isNameStart c then c :: rest.takeWhile isNamePart else []

/-- Reads the name of a group up to its closing mark. -/
def groupName : Reading Unit := do
  if ← atEnd then failHere .nameUnfinished
  let start ← here
  let name := leadingName (← get).rest
  modify fun s => s.advanceBy name.length
  let span ← since start
  match ← peek with
  | none => failHere .nameUnfinished
  | some c =>
    if c ≠ '>' then failChar .nameInvalid
    skip
    if name = [] then fail .nameEmpty (.point start)
    let name := String.ofList name
    match (← get).names.find? fun entry => entry.1 = name with
    | some (_, earlier) => fail (.nameRepeated earlier) span
    | none => modify fun s => { s with names := (name, span) :: s.names }

/-- Reads flags up to a colon or a closing parenthesis. Each flag read before comes with its
span; `negation` is the span of the mark behind which flags are cleared, and `dangling` the same
as long as no flag has followed it. -/
def flags : Nat → Option Span → Option Span → List (Flag × Bool × Span) → Reading FlagChanges
  | 0, _, _, _ => failHere .flagsUnfinished
  | n + 1, negation, dangling, seen => do
    match ← peek with
    | none => failHere .flagsUnfinished
    | some c =>
      let span ← charSpan
      if c = ':' ∨ c = ')' then
        match dangling with
        | some mark => fail .flagNegationDangling mark
        | none => return seen.reverse.map fun (flag, set, _) => (flag, set)
      else if c = '-' then
        match negation with
        | some earlier => fail (.flagNegationRepeated earlier) span
        | none =>
          skip
          flags n (some span) (some span) seen
      else
        match Flag.ofChar? c with
        | none => fail .flagUnknown span
        | some flag =>
          match seen.find? fun entry => entry.1 = flag with
          | some (_, _, earlier) => fail (.flagRepeated earlier) span
          | none =>
            skip
            flags n negation none ((flag, negation.isNone, span) :: seen)

/-- Sets how the rest of a group is read. -/
def setVerbose (changes : FlagChanges) : Reading Unit :=
  modify fun s => { s with verbose := (changes.state? .verbose).getD s.verbose }

/-- Reads the body of a group and its closing parenthesis. -/
def groupBody (body : Reading Tree) (opening : Span) (changes : FlagChanges) : Reading Tree := do
  let outer := (← get).verbose
  setVerbose changes
  let tree ← body
  if ← atEnd then fail .groupUnclosed opening
  modify fun s => { s with verbose := outer }
  skip
  return .group (← since opening.start) changes tree

/-- Reads what a question mark introduces behind an opening parenthesis: flags for the rest of
the group, or for a group of their own. -/
def flagGroup (body : Reading Tree) (opening : Span) (mark : Span) : Reading Tree := do
  if ← atEnd then fail .groupUnclosed opening
  let changes ← flags ((← get).rest.length + 1) none none []
  if (← peek) = some ':' then
    skip
    groupBody body opening changes
  else
    skip
    if changes = [] then fail .repetitionOfNothing mark
    setVerbose changes
    return .flags (← since opening.start) changes

/-- Reads a group, or flags for the rest of the group around it. -/
def group (body : Reading Tree) : Reading Tree := do
  let opening ← charSpan
  skip
  skipFiller
  for text in ["?=", "?!", "?<=", "?<!"] do
    if ← skipIf text.toList then failSince .lookAround opening.start
  let mark ← point
  if (← skipIf "?P<".toList) || (← skipIf "?<".toList) then
    groupName
    groupBody body opening []
  else if ← skipIf ['?'] then flagGroup body opening mark
  else groupBody body opening []

/-! ### Patterns -/

/-- What an escape sequence stands for outside of classes. -/
def ofEscape : Escape → Tree
  | .literal l => .literal l
  | .property p => .property p
  | .letter span negated kind => .letter span negated kind
  | .assertion span kind => .assertion span kind

/-- Reads a part that consists of one character or one escape sequence. -/
def atom (c : Char) : Reading Tree := do
  if c = '\\' then return ofEscape (← escape)
  else
    let span ← charSpan
    skip
    return if c = '.' then .dot span
      else if c = '^' then .assertion span .lineStart
      else if c = '$' then .assertion span .lineEnd
      else .literal ⟨span, c, false⟩

/-- Adds the part that begins with this character to the parts read so far, the last one
first. -/
def part (body : Reading Tree) (c : Char) (items : List Tree) : Reading (List Tree) := do
  if c = '(' then return (← group body) :: items
  else if c = '[' then return (← bracketed) :: items
  else if c = '?' then mark items 0 (some 1)
  else if c = '*' then mark items 0 none
  else if c = '+' then mark items 1 none
  else if c = '\x7b' then counted items
  else return (← atom c) :: items

/-- Reads the rest of a choice up to the end of the pattern or to a closing parenthesis: the
branches before and the parts of the present branch are given, the last ones first. The count is
greater than the number of characters left. -/
def choice : Nat → Place → List Tree → Place → List Tree → Reading Tree
  | 0, _, _, start, items => finish start items
  | n + 1, first, branches, start, items => do
    skipFiller
    match ← peek with
    | none | some ')' =>
      let branch ← finish start items
      if branches = [] then return branch
      else return .choice (← since first) (branch :: branches).reverse
    | some c =>
      if c = '|' then
        let branch ← finish start items
        skip
        choice n first (branch :: branches) (← here) []
      else
        let body : Reading Tree := do
          let place ← here
          choice n place [] place []
        choice n first branches start (← part body c items)
where
  /-- The branch that ends here. -/
  finish (start : Place) (items : List Tree) : Reading Tree := do
    return .inSequence (← since start) items.reverse

/-- Reads a whole pattern. -/
def whole : Reading Tree := do
  let tree ← choice ((← get).rest.length + 1) .start [] .start []
  if !(← atEnd) then failChar .groupUnopened
  return tree

end Reading

/-! ### Nesting -/

/-- How deep groups, classes, repetitions, sequences and choices may be nested. -/
def maxDepth : Nat := 250

namespace ClassTree

mutual

/-- The span of the first part of a class that lies too deep, when the class lies in this many
others. -/
def tooDeep? (depth : Nat) : ClassTree → Option Span
  | literal _ | range _ _ | named _ _ _ | property _ | letter _ _ _ => none
  | union _ [] => none
  | bracketed span _ body =>
    if depth = maxDepth then some span else tooDeep? (depth + 1) body
  | union span (item :: items) =>
    if depth = maxDepth then some span
    else (tooDeep? (depth + 1) item).or (anyTooDeep? (depth + 1) items)
  | combined _ left right =>
    if depth = maxDepth then some (left.span.join right.span)
    else (tooDeep? (depth + 1) left).or (tooDeep? (depth + 1) right)

/-- `tooDeep?` for the first of several classes that has such a part. -/
def anyTooDeep? (depth : Nat) : List ClassTree → Option Span
  | [] => none
  | item :: items => (tooDeep? depth item).or (anyTooDeep? depth items)

end

end ClassTree

namespace Tree

mutual

/-- The span of the first part of a pattern that lies too deep, when the pattern lies in this
many others. -/
def tooDeep? (depth : Nat) : Tree → Option Span
  | nothing _ | flags _ _ | literal _ | dot _ | assertion _ _ | property _ | letter _ _ _ => none
  | bracketed span _ body =>
    if depth = maxDepth then some span else body.tooDeep? (depth + 1)
  | repeated span _ _ body | group span _ body =>
    if depth = maxDepth then some span else tooDeep? (depth + 1) body
  | choice span items | sequence span items =>
    if depth = maxDepth then some span else anyTooDeep? (depth + 1) items

/-- `tooDeep?` for the first of several patterns that has such a part. -/
def anyTooDeep? (depth : Nat) : List Tree → Option Span
  | [] => none
  | item :: items => (tooDeep? depth item).or (anyTooDeep? depth items)

end

/-- Reads a pattern. -/
def parse (pattern : String) : Except PatternError Tree :=
  match Reading.whole.run ⟨pattern.toList, .start, false, []⟩ with
  | .error e => .error e
  | .ok (tree, _) =>
    match tree.tooDeep? 0 with
    | some span => .error ⟨.tooDeep maxDepth, span⟩
    | none => .ok tree

end Tree

end Pattern

end ColumnCast
