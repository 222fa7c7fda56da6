import ColumnCast.Plan.Basic
import ColumnCast.Plan.Schema.Reader
import ColumnCast.Text.Basic
import ColumnCast.Text.Quoted

/-!
# Failures

A `Failure` says which step of a request failed and why. `Failure.reasons` puts it into words
from the step as a whole down to the innermost cause. A step can fail on the file that the
program reads: `FileError` says why, and `FileTree` holds named files of one directory to read
from.
-/

namespace ColumnCast

/-! ### Files -/

/-- Why a file cannot be read. The first two keep it from being opened. -/
inductive FileError where
  | missing
  | notDirectory
  | isDirectory
  | other (text : String)
  deriving DecidableEq

namespace FileError

/-- The error in words. -/
def message : FileError → String
  | missing => "No such file or directory (os error 2)"
  | notDirectory => "Not a directory (os error 20)"
  | isDirectory => "Is a directory (os error 21)"
  | other text => text

end FileError

/-- Files of one directory with their texts. -/
structure FileTree where
  files : List (String × String)

namespace FileTree

/-- The steps of a path, apart from those that stay where they are. -/
def steps (path : String) : List String :=
  ((Text.splitAll '/' path.toList).map String.ofList).filter fun step => step ≠ "" ∧ step ≠ "."

/-- The path ends in a step to a directory. -/
def namesDirectory (path : String) : Bool :=
  match ((Text.splitAll '/' path.toList).map String.ofList).getLast? with
  | some last => last = "" || last = "."
  | none => false

/-- Reads a file by its path, which begins in the directory. -/
def read (t : FileTree) (path : String) : Except FileError String :=
  if path.toList.head? = some '/' then .error .missing
  else
    match steps path with
    | [] => .error .isDirectory
    | name :: rest =>
      match t.files.find? fun file => file.1 = name with
      | none => .error .missing
      | some (_, text) =>
        if rest = [] ∧ ¬namesDirectory path then .ok text else .error .notDirectory

end FileTree

/-! ### Steps of a request -/

/-- Why a schema cannot be loaded. -/
inductive LoadError where
  | file (cause : FileError)
  | schema (cause : SchemaError)

namespace LoadError

/-- What is done with the text of a schema. -/
def parsing : String := "Parsing source schema YAML"

/-- The reasons why the schema of this path cannot be loaded. A directory can be opened but not
read. -/
def reasons (path : String) : LoadError → List String
  | file .isDirectory => [parsing, FileError.isDirectory.message]
  | file cause => ["Opening source schema " ++ Text.quotedPath path, cause.message]
  | schema cause => [parsing, cause.message]

end LoadError

/-- The step of a request that failed, with its cause. -/
inductive Failure where
  | sourceType (text : String) (cause : ConversionError)
  | targetType (text : String) (cause : ConversionError)
  | schema (path : String) (cause : LoadError)
  | rules (cause : PlanError)
  | plan (path : String) (cause : PlanError)
  | converter (source target : ColumnType) (cause : ConversionError)
  | literal (raw : String) (source : ColumnType) (cause : ConversionError)
  | value (raw : String) (source target : ColumnType) (cause : ConversionError)

namespace Failure

/-- The failure in words, the step first. -/
def reasons : Failure → List String
  | sourceType text cause => ["Parsing source type '" ++ text ++ "'", cause.message]
  | targetType text cause => ["Parsing target type '" ++ text ++ "'", cause.message]
  | schema path cause =>
    ("Loading source schema from " ++ Text.quotedPath path) :: cause.reasons path
  | rules cause => "Parsing --field-type definitions" :: cause.chain
  | plan path cause => ("Planning conversions for " ++ Text.quotedPath path) :: cause.chain
  | converter source target cause =>
    ["Building converter " ++ source.text ++ " -> " ++ target.text, cause.message]
  | literal raw source cause =>
    ["Reading value '" ++ raw ++ "' as " ++ source.text, cause.message]
  | value raw source target cause =>
    ["Converting '" ++ raw ++ "' from " ++ source.text ++ " to " ++ target.text, cause.message]

/-- The failure as one message. -/
def message (f : Failure) : String :=
  "error: " ++ String.intercalate ": " f.reasons

end Failure

end ColumnCast
