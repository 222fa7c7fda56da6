import ColumnCast.Yaml.Atom
import ColumnCast.Yaml.Document

/-!
# Data

A `Datum` is what a document stands for when nothing is expected of it: aliases are replaced by
what they stand for, scalars by their atoms. Not every document has a datum: keys must differ
from each other, nesting and the use of aliases have limits, and integers must fit a machine
word.
-/

namespace ColumnCast

namespace Yaml

/-- What a node stands for. A local tag stays with the datum. -/
inductive Datum where
  | atom (value : Atom)
  | sequence (items : List Datum)
  | mapping (entries : List (Datum × Datum))
  | tagged (tag : String) (content : Datum)

/-- Two atoms are the same key. All values that are no number are, and so are the two zeros. -/
def Atom.same : Atom → Atom → Bool
  | .real x, .real y =>
    match FloatFormat.double.decode x, FloatFormat.double.decode y with
    | .nan, .nan => true
    | .finite _ 0 _, .finite _ 0 _ => true
    | m, n => m = n
  | a, b => a = b

namespace Datum

mutual

/-- Two data are the same key. The order of the entries of a mapping does not matter. -/
def same : Datum → Datum → Bool
  | .atom a, .atom b => a.same b
  | .sequence items, .sequence others => sameItems items others
  | .mapping entries, .mapping others =>
    entries.length = others.length && sameEntries entries others
  | .tagged tag content, .tagged other rest => tag = other && same content rest
  | _, _ => false

/-- The items of two lists are the same, one by one. -/
def sameItems : List Datum → List Datum → Bool
  | [], [] => true
  | item :: items, other :: others => same item other && sameItems items others
  | _, _ => false

/-- Every entry of the first list is in the second. -/
def sameEntries : List (Datum × Datum) → List (Datum × Datum) → Bool
  | [], _ => true
  | (key, value) :: rest, others =>
    (others.any fun (key', value') => same key key' && same value value') &&
      sameEntries rest others

end

end Datum

/-! ### Loading -/

/-- Reads a datum, with the number of aliases that may still be followed. -/
abbrev Load := StateT Nat Option

namespace Load

/-- How deep collections may be nested. -/
def maxDepth : Nat := 128

/-- Follows an alias, if the node is one. -/
def follow (d : Document) (n : Node) : Load Node :=
  match n with
  | .aliasTo _ _ => do
    let left ← get
    if left = 0 then failure
    else
      set (left - 1)
      return d.target n
  | _ => return n

/-- The name of a local tag. -/
def tagName (tag : String) : String :=
  match tag.toList with
  | '!' :: c :: rest => String.ofList (c :: rest)
  | _ => tag

/-- The datum under its tag, if the tag is a local one. -/
def underTag (tag : Option String) (content : Datum) : Datum :=
  match tag with
  | some tag => if Atom.isLocalTag tag then .tagged (tagName tag) content else content
  | none => content

/-- The integers of data fit a machine word. -/
def isLoadable : Atom → Bool
  | .integer n => Numeral.fitsWord n
  | _ => true

/-- The datum of a scalar. -/
def scalar? (tag : Option String) (text : String) (style : ScalarStyle) : Option Datum :=
  match Atom.ofScalar tag text style with
  | .ok a => if isLoadable a then some (underTag tag (.atom a)) else none
  | .error _ => none

/-- Reads the entries of a mapping with `load`; the keys in `seen` stand before them. -/
def entries (load : Node → Load Datum) :
    List Datum → List (Node × Node) → Load (List (Datum × Datum))
  | _, [] => return []
  | seen, (keyNode, valueNode) :: rest => do
    let key ← load keyNode
    if seen.any fun other => other.same key then failure
    else
      let value ← load valueNode
      return (key, value) :: (← entries load (key :: seen) rest)

/-- The datum of a node in which collections are nested at most this deep. -/
def node (d : Document) : Nat → Node → Load Datum
  | depth, n => do
    match ← follow d n, depth with
    | .scalar head text style, _ =>
      match scalar? head.tag text style with
      | some datum => return datum
      | none => failure
    | .sequence head items, depth + 1 =>
      return underTag head.tag (.sequence (← items.mapM (node d depth)))
    | .mapping head members, depth + 1 =>
      return underTag head.tag (.mapping (← entries (node d depth) [] members))
    | _, _ => failure

end Load

namespace Document

/-- How many aliases may be followed while a document is loaded: a hundred for each beginning
and end of a node. -/
def maxJumps (d : Document) : Nat :=
  100 * d.root.all.foldl (fun n node => n + ends node) 0
where
  /-- The beginning and the end of a collection count each, a scalar counts once. -/
  ends : Node → Nat
    | .sequence _ _ | .mapping _ _ => 2
    | _ => 1

/-- What a document stands for. -/
def datum? (d : Document) : Option Datum :=
  if d.error?.isSome then none
  else ((Load.node d Load.maxDepth d.root).run d.maxJumps).map Prod.fst

end Document

end Yaml

end ColumnCast
