import ColumnCast.Yaml.Token

/-!
# Documents

A YAML document is a tree of nodes: scalars, sequences, mappings, and aliases that stand for
another node of the tree. A text with an error has a tree as well, up to the place of the error:
there a **broken** node stands, and nothing follows it.

`Document.parse` reads a YAML text as one document: a root node, and the error in what follows
it if there is one. It never fails; where the text breaks off, so does the tree. Collections read
their members one by one, each loop with a count that is at least the number of tokens left, and
nodes carry a bound on their depth in the same way.
-/

namespace ColumnCast

/-! ### The tree of a text -/

namespace Yaml

/-- Where a node begins, with its tag and the number of its anchor. -/
structure NodeHead where
  mark : Mark
  tag : Option String
  anchor : Option Nat
  deriving DecidableEq

/-- A node of a document. An alias carries the number of the anchor that it names. -/
inductive Node where
  | scalar (head : NodeHead) (text : String) (style : ScalarStyle)
  | sequence (head : NodeHead) (items : List Node)
  | mapping (head : NodeHead) (entries : List (Node × Node))
  | aliasTo (mark : Mark) (anchor : Nat)
  | broken (error : SyntaxError)

namespace Node

/-- Where a node begins. -/
def mark : Node → Mark
  | scalar head _ _ | sequence head _ | mapping head _ => head.mark
  | aliasTo mark _ => mark
  | broken error => error.mark

/-- The number of the anchor of a node. -/
def anchor? : Node → Option Nat
  | scalar head _ _ | sequence head _ | mapping head _ => head.anchor
  | aliasTo _ _ | broken _ => none

/-- The scalar without quotation marks and without a text. -/
def isBlankScalar : Node → Bool
  | scalar _ text style => text = "" && style = .plain
  | _ => false

mutual

/-- A node and all nodes inside it, in the order in which they begin. -/
def all : Node → List Node
  | sequence head items => sequence head items :: allItems items
  | mapping head entries => mapping head entries :: allEntries entries
  | other => [other]

/-- The nodes of a list and inside it. -/
def allItems : List Node → List Node
  | [] => []
  | item :: rest => item.all ++ allItems rest

/-- The keys and values of a list and the nodes inside them. -/
def allEntries : List (Node × Node) → List Node
  | [] => []
  | (key, value) :: rest => key.all ++ (value.all ++ allEntries rest)

end

/-- The error at which the node breaks off. -/
def error? (n : Node) : Option SyntaxError :=
  n.all.findSome? fun
    | broken e => some e
    | _ => none

end Node

/-! ### The reader -/

/-- What is left of the tokens, with the error to report behind them, the tag handles in force
and the numbers of the anchors seen so far. -/
structure Reading where
  rest : List Token
  failure : SyntaxError
  handles : List (String × String)
  anchors : List (String × Nat)

/-- Something that reads tokens. -/
abbrev Read := StateT Reading (Except SyntaxError)

namespace Read

/-! ### Tokens -/

/-- The next token. -/
def peek : Read Token := do
  match (← get).rest with
  | token :: _ => return token
  | [] => throw (← get).failure

/-- Moves over the next token. -/
def skip : Read Unit :=
  modify fun r => { r with rest := r.rest.drop 1 }

/-- The next token is one of these. -/
def sees (p : TokenKind → Bool) : Read Bool := do
  return p (← peek).kind

/-- The next token is wrong, while reading what began at `start`. -/
def unexpected {α : Type} (context : String) (start : Mark) (problem : String) : Read α := do
  throw ⟨problem, (← peek).mark, some (context, start)⟩

/-- Reads with `p`; an error ends all reading and is put into the result. -/
def guarded {α : Type} (broken : SyntaxError → α) (p : Read α) : Read α := fun r =>
  match p r with
  | .ok result => .ok result
  | .error e => .ok (broken e, { r with rest := [], failure := e })

/-- A number that is at least the number of tokens left. -/
def bound : Read Nat := do
  return (← get).rest.length + 1

/-! ### Properties -/

/-- Where a node may stand. -/
inductive Place where
  | blockItem
  | blockEntry
  | flow
  deriving DecidableEq

/-- A scalar without a text, at this place. -/
def blankScalar (mark : Mark) : Node :=
  .scalar ⟨mark, none, none⟩ "" .plain

/-- The tag with a handle and a suffix. -/
def resolveTag (start mark : Mark) (handle suffix : String) : Read String := do
  if handle = "" then return suffix
  else
    match (← get).handles.find? fun entry => entry.1 = handle with
    | some (_, stem) => return stem ++ suffix
    | none =>
      throw ⟨"found undefined tag handle", mark, some ("while parsing a node", start)⟩

/-- Reads a tag, if one follows. -/
def tag? (start : Option Mark) : Read (Option (Mark × String)) := do
  let token ← peek
  match token.kind with
  | .tag handle suffix =>
    skip
    return some (token.mark, ← resolveTag (start.getD token.mark) token.mark handle suffix)
  | _ => return none

/-- Reads an anchor, if one follows. -/
def anchor? : Read (Option (Mark × String)) := do
  let token ← peek
  match token.kind with
  | .anchor name =>
    skip
    return some (token.mark, name)
  | _ => return none

/-- Gives an anchor its number: how many names were in use before it. -/
def number (name : String) : Read Nat := do
  let r ← get
  let n := r.anchors.length
  set { r with anchors := (name, n) :: r.anchors.filter fun entry => entry.1 ≠ name }
  return n

/-- Reads an anchor and a tag, in either order. The last component says that there was one. -/
def properties : Read (NodeHead × Bool) := do
  let start := (← peek).mark
  let early ← anchor?
  let tag ← tag? (early.map Prod.fst)
  let name ← match early, tag with
    | none, some _ => anchor?
    | _, _ => pure early
  let anchor ← match name with
    | some (_, name) => some <$> number name
    | none => pure none
  return (⟨start, tag.map Prod.snd, anchor⟩, early.isSome || tag.isSome)

/-! ### Block collections -/

/-- Reads the items of a block sequence; `node` reads one. -/
def blockItems (node : Read Node) (start : Mark) : Nat → Read (List Node)
  | 0 => return []
  | count + 1 => guarded (fun e => [.broken e]) do
    let token ← peek
    match token.kind with
    | .blockEntry =>
      skip
      let isBlank ← sees fun k => k = .blockEntry || k = .blockEnd
      let item ← if isBlank then pure (blankScalar token.mark.next) else node
      return item :: (← blockItems node start count)
    | .blockEnd =>
      skip
      return []
    | _ =>
      unexpected "while parsing a block collection" start "did not find expected '-' indicator"

/-- Reads the items of a block sequence that is not indented more than its key. -/
def indentlessItems (node : Read Node) : Nat → Read (List Node)
  | 0 => return []
  | count + 1 => guarded (fun e => [.broken e]) do
    let token ← peek
    match token.kind with
    | .blockEntry =>
      skip
      let isBlank ← sees fun k => k = .blockEntry || k = .key || k = .value || k = .blockEnd
      let item ← if isBlank then pure (blankScalar token.mark.next) else node
      return item :: (← indentlessItems node count)
    | _ => return []

/-- Reads a key or a value of a block mapping behind its indicator; it may be left out. -/
def blockMember (node : Read Node) (indicator : Mark) : Read Node := do
  skip
  if ← sees fun k => k = .key || k = .value || k = .blockEnd then
    return blankScalar indicator.next
  else node

/-- Reads the entries of a block mapping. -/
def blockEntries (node : Read Node) (start : Mark) : Nat → Read (List (Node × Node))
  | 0 => return []
  | count + 1 => guarded (fun e => [(.broken e, .broken e)]) do
    let token ← peek
    match token.kind with
    | .key =>
      let key ← blockMember node token.mark
      let value ← guarded .broken do
        let token ← peek
        if token.kind = .value then blockMember node token.mark
        else return blankScalar token.mark
      return (key, value) :: (← blockEntries node start count)
    | .blockEnd =>
      skip
      return []
    | _ => unexpected "while parsing a block mapping" start "did not find expected key"

/-! ### Flow collections -/

/-- Moves over the comma before a member of a flow collection that is not the first. -/
def comma (first : Bool) (context : String) (start : Mark) (problem : String) : Read Unit := do
  if !first then
    if ← sees (· = .flowEntry) then skip
    else unexpected context start problem

/-- Reads a member of a flow collection that is left out when one of these tokens follows. -/
def flowMember (node : Read Node) (ends : TokenKind → Bool) : Read Node := do
  let token ← peek
  if ends token.kind then return blankScalar token.mark
  else node

/-- Reads the value of an entry of a flow collection, if it has one. -/
def flowValue (node : Read Node) (close : TokenKind) : Read Node := do
  let token ← peek
  if token.kind = .value then
    skip
    flowMember node fun k => k = .flowEntry || k = close
  else return blankScalar token.mark

/-- Reads a mapping of one entry inside a flow sequence, behind the indicator of its key. A
missing key takes the token behind it along. The mapping ends where the next token is known. -/
def flowPair (node : Read Node) (start : Mark) : Read Node := do
  let token ← peek
  let head : NodeHead := ⟨start, none, none⟩
  let key ← guarded .broken do
    if token.kind = .value || token.kind = .flowEntry || token.kind = .flowSequenceEnd then
      skip
      return blankScalar token.mark.next
    else node
  let value ← guarded .broken (flowValue node .flowSequenceEnd)
  let tail ← guarded (fun e => [(.broken e, .broken e)]) do
    let _ ← peek
    return []
  return .mapping head ((key, value) :: tail)

/-- Reads the items of a flow sequence. -/
def flowItems (node : Read Node) (start : Mark) : Nat → Bool → Read (List Node)
  | 0, _ => return []
  | count + 1, first => guarded (fun e => [.broken e]) do
    if ← sees (· = .flowSequenceEnd) then
      skip
      return []
    comma first "while parsing a flow sequence" start "did not find expected ',' or ']'"
    let token ← peek
    match token.kind with
    | .flowSequenceEnd =>
      skip
      return []
    | .key =>
      skip
      let item ← guarded .broken (flowPair node token.mark)
      return item :: (← flowItems node start count false)
    | _ =>
      let item ← node
      return item :: (← flowItems node start count false)

/-- Reads the entries of a flow mapping. A key without an indicator has no value. -/
def flowEntries (node : Read Node) (start : Mark) : Nat → Bool → Read (List (Node × Node))
  | 0, _ => return []
  | count + 1, first => guarded (fun e => [(.broken e, .broken e)]) do
    if ← sees (· = .flowMappingEnd) then
      skip
      return []
    comma first "while parsing a flow mapping" start "did not find expected ',' or '\x7d'"
    let token ← peek
    match token.kind with
    | .flowMappingEnd =>
      skip
      return []
    | .key =>
      skip
      let key ← flowMember node fun k => k = .value || k = .flowEntry || k = .flowMappingEnd
      let value ← guarded .broken (flowValue node .flowMappingEnd)
      return (key, value) :: (← flowEntries node start count false)
    | _ =>
      let key ← node
      let value ← guarded .broken do return blankScalar (← peek).mark
      return (key, value) :: (← flowEntries node start count false)

/-! ### Nodes -/

/-- A scalar's own tag; the lone exclamation mark is none. -/
def scalarTag (tag : Option String) : Option String :=
  tag.filter (· ≠ "!")

/-- Reads a node without content: its properties belong to an empty scalar. -/
def noContent (place : Place) (head : NodeHead) (hasProperties : Bool) : Read Node :=
  if hasProperties then return .scalar head "" .plain
  else
    unexpected (if place = .flow then "while parsing a flow node" else "while parsing a block node")
      head.mark "did not find expected node content"

/-- Reads the content of a node; `node` reads a node inside it. Block collections cannot stand
inside flow collections. -/
def content (node : Place → Read Node) (place : Place) (head : NodeHead) (hasProperties : Bool) :
    Read Node := do
  let token ← peek
  match token.kind with
  | .scalar text style =>
    skip
    return .scalar { head with tag := scalarTag head.tag } text style
  | .flowSequenceStart =>
    skip
    return .sequence head (← flowItems (node .flow) token.mark (← bound) true)
  | .flowMappingStart =>
    skip
    return .mapping head (← flowEntries (node .flow) token.mark (← bound) true)
  | .blockEntry =>
    if place = .blockEntry then
      return .sequence head (← indentlessItems (node .blockItem) (← bound))
    else noContent place head hasProperties
  | .blockSequenceStart =>
    if place = .flow then noContent place head hasProperties
    else
      skip
      return .sequence head (← blockItems (node .blockItem) token.mark (← bound))
  | .blockMappingStart =>
    if place = .flow then noContent place head hasProperties
    else
      skip
      return .mapping head (← blockEntries (node .blockEntry) token.mark (← bound))
  | _ => noContent place head hasProperties

/-- The number of the anchor with this name. -/
def anchorNumber (mark : Mark) (name : String) : Read Nat := do
  match (← get).anchors.find? fun entry => entry.1 = name with
  | some (_, n) => return n
  | none => throw ⟨"unknown anchor", mark, none⟩

/-- Reads a node of at most this depth. -/
def node : Nat → Place → Read Node
  | 0, _ => do throw (← get).failure
  | depth + 1, place => do
    let token ← peek
    match token.kind with
    | .aliasTo name =>
      let n ← anchorNumber token.mark name
      skip
      return .aliasTo token.mark n
    | _ =>
      let (head, hasProperties) ← properties
      content (node depth) place head hasProperties

/-! ### Directives -/

/-- The handles that are in force without a directive. -/
def standardHandles : List (String × String) :=
  [("!", "!"), ("!!", "tag:yaml.org,2002:")]

/-- Reads the directives of a document. -/
def directives : Nat → Bool → List (String × String) → Read (List (String × String))
  | 0, _, handles => return handles
  | count + 1, hasVersion, handles => do
    let token ← peek
    match token.kind with
    | .versionDirective major minor =>
      if hasVersion then throw ⟨"found duplicate %YAML directive", token.mark, none⟩
      else if major ≠ 1 ∨ (minor ≠ 1 ∧ minor ≠ 2) then
        throw ⟨"found incompatible YAML document", token.mark, none⟩
      else
        skip
        directives count true handles
    | .tagDirective handle stem =>
      if handles.any fun entry => entry.1 = handle then
        throw ⟨"found duplicate %TAG directive", token.mark, none⟩
      else
        skip
        directives count hasVersion (handles ++ [(handle, stem)])
    | _ => return handles

/-! ### The document -/

/-- The root node of a text. A text without tokens, and a document without content, have an
empty scalar there. -/
def root : Read Node := do
  let token ← peek
  let depth ← bound
  match token.kind with
  | .streamEnd => return blankScalar token.mark
  | .versionDirective _ _ | .tagDirective _ _ | .documentStart =>
    let handles ← directives depth false []
    modify fun r => { r with handles := handles ++ standardHandles }
    let token ← peek
    if token.kind ≠ .documentStart then
      throw ⟨"did not find expected <document start>", token.mark, none⟩
    skip
    let token ← peek
    match token.kind with
    | .versionDirective _ _ | .tagDirective _ _ | .documentStart | .documentEnd | .streamEnd =>
      return blankScalar token.mark
    | _ => node depth .blockItem
  | _ => node depth .blockItem

/-- Moves over the ends of the document. -/
def documentEnds : Nat → Read Unit
  | 0 => return ()
  | count + 1 => do
    if ← sees (· = .documentEnd) then
      skip
      documentEnds count

/-- What is wrong when a second document follows the first. -/
def secondDocument : SyntaxError :=
  ⟨"deserializing from YAML containing more than one document is not supported", Mark.start,
    none⟩

/-- Checks that nothing follows the document; the error is returned. What stands behind the end
of the document is a second one, whether it can be read or not. -/
def following : Read (Option SyntaxError) :=
  guarded some do
    let _ ← peek
    guarded (fun _ => some secondDocument) do
      documentEnds (← bound)
      return if ← sees (· = .streamEnd) then none else some secondDocument

end Read

/-- A document: its root node and the error in what follows it. -/
structure Document where
  root : Node
  trailing : Option SyntaxError

namespace Document

/-- The document of a list of tokens, which `failure` cuts short. -/
def ofTokens (tokens : List Token) (failure : Option SyntaxError) : Document :=
  let ended : SyntaxError := failure.getD ⟨"did not find expected node content", Mark.start, none⟩
  let read : Read Document := do
    let root ← Read.guarded .broken Read.root
    return ⟨root, ← Read.following⟩
  match read ⟨tokens, ended, Read.standardHandles, []⟩ with
  | .ok (document, _) => document
  | .error e => ⟨.broken e, none⟩

/-- Reads a text as a document. -/
def parse (text : String) : Document :=
  let (tokens, failure) := tokens text
  ofTokens tokens failure

/-- The error at which the document breaks off. -/
def error? (d : Document) : Option SyntaxError :=
  d.root.error? <|> d.trailing

/-! ### Aliases -/

/-- The node that an alias stands for: the last one whose anchor has its number. Any other node
stands for itself. -/
def target (d : Document) : Node → Node
  | .aliasTo mark n =>
    ((d.root.all.filter fun node => node.anchor? = some n).getLast?).getD (.aliasTo mark n)
  | node => node

end Document

end Yaml

end ColumnCast
