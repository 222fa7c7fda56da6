import ColumnCast.Pattern.Reader.Escape

/-!
# Bracketed classes

A class is written between brackets: characters, ranges, other classes, and operators between
such unions. `bracketed` reads one. A class that is never closed is reported with its opening
bracket and the marks that belong to it, the innermost one first.
-/

namespace ColumnCast

namespace Pattern

/-- The members of a union, the last one first, and the stretch in which they are written. -/
structure ClassUnion where
  span : Span
  items : List ClassTree

namespace ClassUnion

/-- A union without members at a place. -/
def empty (place : Place) : ClassUnion := ⟨.point place, []⟩

/-- The union with one more member. -/
def push (u : ClassUnion) (item : ClassTree) : ClassUnion :=
  ⟨⟨if u.items.isEmpty then item.span.start else u.span.start, item.span.stop⟩, item :: u.items⟩

/-- The union as a class. -/
def tree (u : ClassUnion) : ClassTree :=
  match u.items with
  | [item] => item
  | items => .union u.span items.reverse

end ClassUnion

/-- An operator that waits for its right side. -/
abbrev Pending := Option (ClassOperator × ClassTree)

namespace Reading

/-- The class that is complete when its last union is. -/
def complete (pending : Pending) (u : ClassUnion) : ClassTree :=
  match pending with
  | some (operator, left) => .combined operator left u.tree
  | none => u.tree

/-- The class without an ASCII name that begins here, unless there is none: the name between
colons and brackets, and whether it is reversed. -/
def namedClass? (cs : List Char) : Option (Bool × NamedClass × Nat) :=
  match cs with
  | '[' :: ':' :: rest =>
    let (negated, rest) :=
      match rest with
      | '^' :: more => (true, more)
      | _ => (false, rest)
    let name := rest.takeWhile (· ≠ ':')
    match rest.dropWhile (· ≠ ':') with
    | ':' :: ']' :: _ =>
      (NamedClass.ofName? (String.ofList name)).map fun kind =>
        (negated, kind, name.length + if negated then 5 else 4)
    | _ => none
  | _ => none

/-- The operator of a doubled mark. -/
def operator? (cs : List Char) : Option ClassOperator :=
  match cs with
  | '&' :: '&' :: _ => some .intersection
  | '-' :: '-' :: _ => some .difference
  | '~' :: '~' :: _ => some .symmetricDifference
  | _ => none

/-- Reads a character of a class or an escape sequence. -/
def classAtom (c : Char) : Reading Escape := do
  if c = '\\' then escape
  else
    let span ← charSpan
    skip
    return .literal ⟨span, c, false⟩

/-- A sequence as the member of a class. -/
def asMember : Escape → Reading ClassTree
  | .literal l => return .literal l
  | .property p => return .property p
  | .letter span negated kind => return .letter span negated kind
  | .assertion span _ => fail .classEscape span

/-- A sequence as an end of a range. -/
def asBound : Escape → Reading Literal
  | .literal l => return l
  | other => fail .classRangeBound other.span

/-- Reads a member of a class: a range, or what stands alone. -/
def classMember (opening : Span) (c : Char) : Reading ClassTree := do
  let low ← classAtom c
  skipFiller
  let s ← get
  match s.rest with
  | [] => fail .classUnclosed opening
  | mark :: _ =>
    let behind := s.peekBehind
    if mark ≠ '-' ∨ behind = some ']' ∨ behind = some '-' then asMember low
    else
      let _ ← next
      match ← peek with
      | none => fail .classUnclosed opening
      | some c =>
        let high ← classAtom c
        let span := low.span.join high.span
        let low ← asBound low
        let high ← asBound high
        if high.char < low.char then fail .classRange span
        return .range low high

/-- Reads hyphens that open a class and stand for themselves. -/
def openingHyphens (start : Place) : Nat → ClassUnion → Reading ClassUnion
  | 0, u => return u
  | n + 1, u => do
    if (← peek) = some '-' then
      let u := u.push (.literal ⟨← charSpan, '-', false⟩)
      if !(← next) then fail .classUnclosed (.point start)
      openingHyphens start n u
    else return u

/-- Reads an opening bracket with the marks that belong to it: whether the class is reversed, and
the hyphens or the closing bracket in front that stand for themselves. -/
def openingBracket : Reading (Bool × ClassUnion) := do
  let start ← here
  if !(← next) then failSince .classUnclosed start
  let negated := (← peek) = some '^'
  if negated then
    if !(← next) then failSince .classUnclosed start
  let u ← openingHyphens start (← get).rest.length (.empty (← here))
  if u.items.isEmpty && (← peek) = some ']' then
    let u := u.push (.literal ⟨← charSpan, ']', false⟩)
    if !(← next) then failSince .classUnclosed start
    return (negated, u)
  else return (negated, u)

/-- Reads the rest of a class up to its closing bracket. The count is greater than the number of
characters left. -/
def classRest : Nat → Span → Pending → ClassUnion → Reading ClassTree
  | 0, opening, _, _ => fail .classUnclosed opening
  | n + 1, opening, pending, u => do
    skipFiller
    let s ← get
    match s.rest with
    | [] => fail .classUnclosed opening
    | c :: _ =>
      if c = ']' then
        skip
        return complete pending u
      else if c = '[' then
        let start ← here
        match namedClass? s.rest with
        | some (negated, kind, length) =>
          modify fun s => s.advanceBy length
          classRest n opening pending (u.push (.named (← since start) negated kind))
        | none =>
          let (negated, inner) ← openingBracket
          let body ← classRest n (← since start) none inner
          classRest n opening pending (u.push (.bracketed (← since start) negated body))
      else
        match operator? s.rest with
        | some operator =>
          modify fun s => s.advanceBy 2
          classRest n opening (some (operator, complete pending u)) (.empty (← here))
        | none =>
          let item ← classMember opening c
          classRest n opening pending (u.push item)

/-- Reads a class. -/
def bracketed : Reading Tree := do
  let start ← here
  let (negated, u) ← openingBracket
  let opening ← since start
  let body ← classRest ((← get).rest.length + 1) opening none u
  return .bracketed (← since start) negated body

end Reading

end Pattern

end ColumnCast
