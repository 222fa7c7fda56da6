import ColumnCast.Cast.Converter
import ColumnCast.ColumnType.Descriptor

/-!
# Conversion plans

A `Schema` lists the columns of a file with their types; a path may occur more than once. A
`FieldRule`, written `field.path=PHYSICAL:LOGICAL`, asks for one column to change its type: its
text is cut at the first equals sign, the blanks around the two halves do not count, and neither
half may be empty.

A `Plan` holds a converter for every column that rules ask to change, in the order of the
columns' paths. `Plan.build` checks the rules in turn and stops at the first one that names a
path again, names no column or asks for a conversion that does not exist. A `PlanError` says why
a rule cannot be read, why a plan cannot be built or which column a value failed in.
-/

namespace ColumnCast

/-! ### Schemas and rules -/

/-- A column of a schema. -/
structure Column where
  path : String
  type : ColumnType
  deriving DecidableEq

/-- The columns of a file, in order. -/
structure Schema where
  columns : List Column
  deriving DecidableEq

namespace Schema

/-- The first column with this path. -/
def column? (s : Schema) (path : String) : Option Column :=
  s.columns.find? fun column => column.path = path

end Schema

/-- A request that a column take another type. -/
structure FieldRule where
  path : String
  target : TargetType

/-! ### Errors -/

/-- Why a rule, a plan or a value of a plan is refused. -/
inductive PlanError where
  | invalidRule (rule : String)
  | emptyPath (rule : String)
  | emptySpec (rule : String)
  | invalidSpec (path : String) (cause : ConversionError)
  | duplicateField (path : String)
  | unknownField (path : String)
  | unconvertible (path : String) (cause : ConversionError)
  | value (path : String) (cause : ConversionError)
  deriving DecidableEq

namespace PlanError

/-- The name of the kind of error. -/
def name : PlanError → String
  | invalidRule _ => "InvalidRule"
  | emptyPath _ => "EmptyPath"
  | emptySpec _ => "EmptySpec"
  | invalidSpec _ _ => "InvalidSpec"
  | duplicateField _ => "DuplicateField"
  | unknownField _ => "UnknownField"
  | unconvertible _ _ => "Unconvertible"
  | value _ _ => "Value"

/-- The error in words, without its cause. -/
def message : PlanError → String
  | invalidRule rule =>
    "invalid field type format [" ++ rule ++ "], expected 'field.path=PRIMITIVE:LOGICAL'"
  | emptyPath rule => "empty field path in [" ++ rule ++ "]"
  | emptySpec rule => "empty type specification in [" ++ rule ++ "]"
  | invalidSpec path _ => "invalid type specification for field [" ++ path ++ "]"
  | duplicateField path => "field [" ++ path ++ "] has more than one type conversion"
  | unknownField path => "field [" ++ path ++ "] not found in schema"
  | unconvertible path _ => "cannot convert field [" ++ path ++ "]"
  | value path _ => "field [" ++ path ++ "] value could not be converted"

/-- The error behind this one. -/
def cause? : PlanError → Option ConversionError
  | invalidSpec _ cause | unconvertible _ cause | value _ cause => some cause
  | _ => none

/-- The error and its cause in words, the outermost first. -/
def chain (e : PlanError) : List String :=
  e.message :: (e.cause?.map ConversionError.message).toList

end PlanError

/-! ### Reading rules -/

namespace TargetType

/-- Reads a type text, reporting the whole text with its fault. -/
def read (text : String) : Except ConversionError TargetType :=
  match parse text with
  | .ok t => .ok t
  | .error fault => .error (.specification text fault)

/-- The column type as a target; a fault is reported with the text of the type. -/
def make (t : ColumnType) : Except ConversionError TargetType :=
  match ofColumnType t with
  | .ok target => .ok target
  | .error fault => .error (.specification t.text fault)

end TargetType

namespace FieldRule

/-- Reads a rule text. -/
def parse (rule : String) : Except PlanError FieldRule :=
  match Text.splitFirst? '=' rule.toList with
  | none => .error (.invalidRule rule)
  | some (left, right) =>
    let path := String.ofList (Text.trim left)
    let spec := String.ofList (Text.trim right)
    if path = "" then .error (.emptyPath rule)
    else if spec = "" then .error (.emptySpec rule)
    else
      match TargetType.read spec with
      | .ok target => .ok ⟨path, target⟩
      | .error cause => .error (.invalidSpec path cause)

end FieldRule

/-! ### Plans -/

/-- A column that a plan converts. -/
structure PlannedColumn where
  source : ColumnType
  target : TargetType
  converter : Converter

/-- The columns to convert, by path. -/
structure Plan where
  columns : List (String × PlannedColumn)

/-! ### Building -/

/-- The column that a rule changes, with its converter. -/
def planColumn (schema : Schema) (rule : FieldRule) : Except PlanError PlannedColumn :=
  match schema.column? rule.path with
  | none => .error (.unknownField rule.path)
  | some column =>
    match Converter.build column.type rule.target with
    | .ok converter => .ok ⟨column.type, rule.target, converter⟩
    | .error cause => .error (.unconvertible rule.path cause)

/-- The columns that a list of rules changes, up to the first rule that fails, and why it does.
The paths in `seen` have been named before. -/
def planSteps (schema : Schema) :
    List String → List FieldRule → List (String × PlannedColumn) × Option PlanError
  | _, [] => ([], none)
  | seen, rule :: rest =>
    if rule.path ∈ seen then ([], some (.duplicateField rule.path))
    else
      match planColumn schema rule with
      | .error e => ([], some e)
      | .ok column =>
        let (columns, failure) := planSteps schema (rule.path :: seen) rest
        ((rule.path, column) :: columns, failure)

/-- Puts an entry in front of the first one with a path that is not before its own. -/
def insertByPath (entry : String × PlannedColumn) :
    List (String × PlannedColumn) → List (String × PlannedColumn)
  | [] => [entry]
  | other :: rest =>
    if other.1 < entry.1 then other :: insertByPath entry rest else entry :: other :: rest

namespace Plan

/-- The plan with these columns, brought into the order of their paths. -/
def ofColumns (columns : List (String × PlannedColumn)) : Plan :=
  ⟨columns.foldr insertByPath []⟩

/-- The plan that carries out a list of rules. -/
def build (schema : Schema) (rules : List FieldRule) : Except PlanError Plan :=
  match planSteps schema [] rules with
  | (_, some failure) => .error failure
  | (columns, none) => .ok (ofColumns columns)

/-! ### Using a plan -/

/-- The number of columns to convert. -/
def size (p : Plan) : Nat :=
  p.columns.length

/-- The planned column of this path. -/
def column? (p : Plan) (path : String) : Option PlannedColumn :=
  (p.columns.find? fun entry => entry.1 = path).map Prod.snd

/-- Converts a value of a column; a column without a rule keeps its values. -/
def convert (p : Plan) (path : String) (v : Value) : Except PlanError Value :=
  match p.column? path with
  | none => .ok v
  | some column =>
    match column.converter.convert v with
    | .ok w => .ok w
    | .error cause => .error (.value path cause)

/-- The schema with the type of every planned path replaced by its target. -/
def targetSchema (p : Plan) (schema : Schema) : Schema :=
  ⟨schema.columns.map fun column =>
    match p.column? column.path with
    | some planned => { column with type := planned.target.toColumnType }
    | none => column⟩

end Plan

end ColumnCast
