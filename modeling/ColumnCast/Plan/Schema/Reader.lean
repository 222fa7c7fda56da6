import ColumnCast.Error
import ColumnCast.Plan.Basic
import ColumnCast.Text.Quoted
import ColumnCast.Yaml.Atom
import ColumnCast.Yaml.Document

/-!
# Reading schemas

`Schema.parse` reads a schema from a YAML text: a mapping whose field `columns` is a sequence of
mappings with the fields `path` and `type`. Other fields are ignored, and a blank scalar counts
as a mapping or a sequence without members. The text is read from front to back and the first
error counts: either the text breaks off as YAML, or something in it is not what a schema has at
that place.
-/

namespace ColumnCast

open Yaml (Atom Document Mark Node SyntaxError)

/-! ### Errors -/

/-- What stands in a document where something else was expected. -/
inductive Found where
  | atom (value : Atom)
  | sequence
  | mapping
  deriving DecidableEq

namespace Found

/-- An integer in words; one that fits no machine word is named with the width that it needs. -/
def integerText (n : Int) : String :=
  "integer \x60" ++ Numeral.int n ++ "\x60" ++
    if Numeral.fitsWord n then "" else if n < 0 then " as i128" else " as u128"

/-- A floating-point number with a point in it, whole ones with a zero behind it. -/
def realText (x : Binary64) : String :=
  let text := FloatFormat.double.text x
  if Atom.isFinite x && !text.toList.contains '.' then text ++ ".0" else text

/-- What was found, in words. -/
def text : Found → String
  | atom .null => "unit value"
  | atom (.boolean true) => "boolean \x60true\x60"
  | atom (.boolean false) => "boolean \x60false\x60"
  | atom (.integer n) => integerText n
  | atom (.real x) => "floating point \x60" ++ realText x ++ "\x60"
  | atom (.text s) => "string " ++ Text.quoted s
  | sequence => "sequence"
  | mapping => "map"

end Found

/-- What is wrong with a node of a document that should be a schema. -/
inductive SchemaFault where
  | mismatch (found : Found) (expected : String)
  | badScalar (text expected : String)
  | missingField (name : String)
  | duplicateField (name : String)
  | specification (cause : ConversionError)
  deriving DecidableEq

namespace SchemaFault

/-- The fault in words. -/
def message : SchemaFault → String
  | mismatch found expected => "invalid type: " ++ found.text ++ ", expected " ++ expected
  | badScalar text expected =>
    "invalid value: string " ++ Text.quoted text ++ ", expected " ++ expected
  | missingField name => "missing field \x60" ++ name ++ "\x60"
  | duplicateField name => "duplicate field \x60" ++ name ++ "\x60"
  | specification cause => cause.message

end SchemaFault

/-- Why a text is no schema. A fault has the path that leads to it and the place of the node. -/
inductive SchemaError where
  | brokenText (error : SyntaxError)
  | fault (path : String) (mark : Mark) (cause : SchemaFault)

namespace SchemaError

/-- The error in words. The path and the place are left out at the beginning of the text. -/
def message : SchemaError → String
  | brokenText error => error.message
  | fault path mark cause =>
    (if path = "" then "" else path ++ ": ") ++ cause.message ++
      if mark.isStart then "" else " at " ++ mark.text

end SchemaError

/-! ### Nodes -/

namespace SchemaReader

/-- What a node is, for an error at a place with this path that expected something else. -/
def mismatch (path : String) (n : Node) (expected : String) : SchemaError :=
  match n with
  | .scalar head text style =>
    match Atom.ofScalar head.tag text style with
    | .ok atom => .fault path head.mark (.mismatch (.atom atom) expected)
    | .error kind => .fault path head.mark (.badScalar text kind)
  | .sequence head _ => .fault path head.mark (.mismatch .sequence expected)
  | .mapping head _ => .fault path head.mark (.mismatch .mapping expected)
  | .aliasTo mark _ => .fault path mark (.mismatch (.atom .null) expected)
  | .broken error => .brokenText error

/-- Reads the text of a scalar, however it is written. -/
def text (d : Document) (path expected : String) (n : Node) : Except SchemaError String :=
  match d.target n with
  | .scalar _ text _ => .ok text
  | other => .error (mismatch path other expected)

/-- Reads the entries of a mapping, with the place where it begins. -/
def entries (d : Document) (path expected : String) (n : Node) :
    Except SchemaError (Mark × List (Node × Node)) :=
  let n := d.target n
  match n with
  | .mapping head entries => .ok (head.mark, entries)
  | _ => if n.isBlankScalar then .ok (n.mark, []) else .error (mismatch path n expected)

/-- Reads the items of a sequence. -/
def items (d : Document) (path expected : String) (n : Node) : Except SchemaError (List Node) :=
  let n := d.target n
  match n with
  | .sequence _ items => .ok items
  | _ => if n.isBlankScalar then .ok [] else .error (mismatch path n expected)

/-- The path of a field. The name of a field shows only when its key is no alias. -/
def fieldPath (path : String) (key : Node) (name : String) : String :=
  let last :=
    match key with
    | .aliasTo _ _ => "?"
    | _ => name
  if path = "" then last else path ++ "." ++ last

/-- The path of an item. -/
def itemPath (path : String) (index : Nat) : String :=
  path ++ "[" ++ Numeral.nat index ++ "]"

/-- Passes over a node that is ignored. -/
def ignore (n : Node) : Except SchemaError Unit :=
  match n.error? with
  | some error => .error (.brokenText error)
  | none => .ok ()

/-- Reads the value of a field that must not have occurred before. -/
def once {α : Type} (path : String) (mark : Mark) (name : String) (seen : Option α)
    (read : Except SchemaError α) : Except SchemaError (Option α) :=
  match seen with
  | some _ => .error (.fault path mark (.duplicateField name))
  | none => read.map some

/-- The value of a field that must have occurred. -/
def required {α : Type} (path : String) (mark : Mark) (name : String) (seen : Option α) :
    Except SchemaError α :=
  match seen with
  | some a => .ok a
  | none => .error (.fault path mark (.missingField name))

/-- What a key is expected to be. -/
def keyExpectation : String := "field identifier"

/-! ### Columns -/

/-- Reads the type of a column; a fault in it is reported at the column. -/
def columnType (d : Document) (path : String) (mark : Mark) (fieldPath : String) (n : Node) :
    Except SchemaError ColumnType := do
  let spec ← text d fieldPath "a string" n
  match TargetType.read spec with
  | .ok target => return target.toColumnType
  | .error cause => throw (.fault path mark (.specification cause))

/-- Reads the fields of a column; `name` and `type` have been read before. -/
def columnFields (d : Document) (path : String) (mark : Mark) :
    Option String → Option ColumnType → List (Node × Node) → Except SchemaError Column
  | name, type, [] => do
    return ⟨← required path mark "path" name, ← required path mark "type" type⟩
  | name, type, (key, value) :: rest => do
    let field ← text d path keyExpectation key
    let inner := fieldPath path key field
    if field = "path" then
      let name ← once path mark field name (text d inner "a string" value)
      columnFields d path mark name type rest
    else if field = "type" then
      let type ← once path mark field type (columnType d path mark inner value)
      columnFields d path mark name type rest
    else
      ignore value
      columnFields d path mark name type rest

/-- Reads a column. -/
def column (d : Document) (path : String) (n : Node) : Except SchemaError Column := do
  let (mark, members) ← entries d path "struct SourceColumn" n
  columnFields d path mark none none members

/-- Reads columns, of which the first has this index. -/
def columns (d : Document) (path : String) : Nat → List Node → Except SchemaError (List Column)
  | _, [] => .ok []
  | index, n :: rest => do
    let first ← column d (itemPath path index) n
    return first :: (← columns d path (index + 1) rest)

/-! ### Schemas -/

/-- Reads the fields of a schema; `found` are the columns that have been read before. -/
def schemaFields (d : Document) (mark : Mark) :
    Option (List Column) → List (Node × Node) → Except SchemaError Schema
  | found, [] => do return ⟨← required "" mark "columns" found⟩
  | found, (key, value) :: rest => do
    let field ← text d "" keyExpectation key
    let path := fieldPath "" key field
    if field = "columns" then
      let found ← once "" mark field found do
        columns d path 0 (← items d path "a sequence" value)
      schemaFields d mark found rest
    else
      ignore value
      schemaFields d mark found rest

end SchemaReader

namespace Schema

/-- The schema that a document describes. -/
def ofDocument (d : Document) : Except SchemaError Schema := do
  let (mark, members) ← SchemaReader.entries d "" "struct SourceSchema" d.root
  let schema ← SchemaReader.schemaFields d mark none members
  match d.trailing with
  | some error => throw (.brokenText error)
  | none => return schema

/-- Reads a schema. -/
def parse (yaml : String) : Except SchemaError Schema :=
  ofDocument (Document.parse yaml)

end Schema

end ColumnCast
