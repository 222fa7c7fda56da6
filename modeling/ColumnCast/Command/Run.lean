import ColumnCast.Command.Arguments
import ColumnCast.Command.Failure
import ColumnCast.Command.Log
import ColumnCast.Json.Text
import ColumnCast.Plan.Basic
import ColumnCast.Plan.Schema.Printer
import ColumnCast.Plan.Schema.Reader
import ColumnCast.Value.Display
import ColumnCast.Value.Literal

/-!
# Carrying out requests

`Request.run` carries out what the user asks for. A `Report` is what comes of it: the text on
standard output, log lines and, if a step fails, its failure. Text that has been written stays
when a later step fails.
-/

namespace ColumnCast

/-- What comes of a request. -/
structure Report where
  output : String
  log : List LogLine
  failure : Option Failure

namespace Report

/-- A request that succeeded with this output. -/
def success (output : String) (log : List LogLine) : Report := ⟨output, log, none⟩

/-- A request that failed before it wrote anything. -/
def failed (log : List LogLine) (failure : Failure) : Report := ⟨"", log, some failure⟩

end Report

namespace Command

/-- A text as a line. -/
def line (s : String) : String := s ++ "\n"

/-- From one type to another, in words. -/
def arrow (source target : ColumnType) : String := source.text ++ " -> " ++ target.text

/-! ### Log lines -/

/-- A converter has been built. -/
def builtLine (c : Converter) (source target : ColumnType) : LogLine :=
  ⟨.debug, .converter, "Built " ++ c.label ++ " converter for " ++ arrow source target⟩

/-- A column has been planned, with the converter that was built for it. -/
def plannedLines (path : String) (c : PlannedColumn) : List LogLine :=
  let target := c.target.toColumnType
  [builtLine c.converter c.source target,
    ⟨.debug, .plan, "Field '" ++ path ++ "' will convert " ++ arrow c.source target⟩]

/-- A plan has been built. -/
def coverageLine (plan : Plan) (schema : Schema) : LogLine :=
  ⟨.info, .plan, "Conversion plan covers " ++ Numeral.nat plan.size ++ " of " ++
    Numeral.nat schema.columns.length ++ " column(s)"⟩

/-! ### Targets -/

/-- Lists the types that a source type can be converted to. -/
def targets (source : String) (json : Bool) : Report :=
  match TargetType.read source with
  | .error cause => .failed [] (.sourceType source cause)
  | .ok type =>
    let keys := (allowedTargets type.toColumnType).map TypeKey.text
    let counted : LogLine := ⟨.debug, .program,
      Numeral.nat keys.length ++ " target(s) reachable from " ++ type.text⟩
    if json then .success (line (JsonText.lines keys)) [counted]
    else if keys = [] then
      .success "" [counted, ⟨.info, .program, "No conversions are available from " ++ type.text⟩]
    else .success (String.join (keys.map line)) [counted]

/-! ### Check -/

/-- Loads a schema from a file. -/
def loadSchema (read : String → Except FileError String) (path : String) :
    Except LoadError Schema :=
  match read path with
  | .error cause => .error (.file cause)
  | .ok yaml => (Schema.parse yaml).mapError .schema

/-- A plan as text: the schema that results from it or a line for each planned column. -/
def planText (schema : Schema) (plan : Plan) (emitSchema : Bool) : String :=
  if emitSchema then (plan.targetSchema schema).yaml
  else
    String.join (plan.columns.map fun (path, c) =>
      line (path ++ ": " ++ arrow c.source c.target.toColumnType))

/-- Plans rules for a schema from the file with this path. -/
def checkRules (path : String) (schema : Schema) (rules : List FieldRule) (emitSchema : Bool) :
    Report :=
  let log := (planSteps schema [] rules).1.flatMap fun (path, c) => plannedLines path c
  match Plan.build schema rules with
  | .error cause => .failed log (.plan path cause)
  | .ok plan =>
    .success (planText schema plan emitSchema) (log ++ [coverageLine plan schema,
      ⟨.info, .program, "✓ " ++ Numeral.nat plan.size ++ " field conversion(s) are valid"⟩])

/-- Checks rule texts against the schema in a file. -/
def check (read : String → Except FileError String) (path : String) (ruleTexts : List String)
    (emitSchema : Bool) : Report :=
  match loadSchema read path with
  | .error cause => .failed [] (.schema path cause)
  | .ok schema =>
    match ruleTexts.mapM FieldRule.parse with
    | .error cause => .failed [] (.rules cause)
    | .ok rules => checkRules path schema rules emitSchema

/-! ### Convert -/

/-- A converter with the types between which it converts. -/
structure Route where
  source : ColumnType
  target : ColumnType
  converter : Converter

/-- Reads two types and builds the converter between them. -/
def route (source target : String) : Except Failure Route := do
  let s ← (TargetType.read source).mapError (Failure.sourceType source)
  let t ← (TargetType.read target).mapError (Failure.targetType target)
  let converter ← (Converter.build s.toColumnType t).mapError
    (Failure.converter s.toColumnType t.toColumnType)
  return ⟨s.toColumnType, t.toColumnType, converter⟩

/-- Converts the text of a value to the line that shows the result. -/
def convertText (r : Route) (raw : String) : Except Failure String := do
  let input ← (Value.parseLiteral raw r.source.physical).mapError (Failure.literal raw r.source)
  let output ← (r.converter.convert input).mapError (Failure.value raw r.source r.target)
  return line (output.explained r.target)

/-- The results of a function up to the first error, and that error. -/
def untilError {α β ε : Type} (f : α → Except ε β) : List α → List β × Option ε
  | [] => ([], none)
  | a :: rest =>
    match f a with
    | .error e => ([], some e)
    | .ok b =>
      let (bs, e) := untilError f rest
      (b :: bs, e)

/-- Converts the texts of values, up to the first that fails. -/
def convert (source target : String) (values : List String) : Report :=
  match route source target with
  | .error failure => .failed [] failure
  | .ok r =>
    let (lines, failure) := untilError (convertText r) values
    ⟨String.join lines, [builtLine r.converter r.source r.target], failure⟩

/-! ### Version and help -/

/-- The name and the version of the program. -/
def versionText : String := "parquet-retype 0.1.0"

/-- How the program is used. -/
def usage : String :=
  "Validate and apply Parquet column type conversions\n\n" ++
    "Usage: parquet-retype <COMMAND>\n\n" ++
    "  targets --source <TYPE> [--json]\n" ++
    "  check --schema <FILE> --field-type <PATH=TYPE>... [--emit-schema]\n" ++
    "  convert --from <TYPE> --to <TYPE> <VALUE>...\n" ++
    "  help [COMMAND]\n"

end Command

namespace Request

/-- Carries out a request; `read` reads the file of a path. -/
def run (read : String → Except FileError String) : Request → Report
  | targets source json => Command.targets source json
  | check schema rules emitSchema => Command.check read schema rules emitSchema
  | convert source target values => Command.convert source target values
  | version => .success (Command.line Command.versionText) []
  | help => .success Command.usage []

end Request

/-! ### The program -/

/-- What a run of the program leaves behind. -/
structure RunResult where
  exitCode : Nat
  output : String
  errors : String
  log : List LogLine
  deriving DecidableEq

namespace RunResult

/-- The result of a request under the log setting. Warnings about the setting come first. -/
def ofReport (setting : Option String) (r : Report) : RunResult :=
  let (filter, warnings) :=
    match setting with
    | some text => LogFilter.parse text
    | none => (LogFilter.standard, [])
  { exitCode := if r.failure.isSome then 1 else 0
    output := r.output
    errors := String.join ((warnings ++ (r.failure.map Failure.message).toList).map Command.line)
    log := r.log.filter filter.shows }

end RunResult

/-- Runs the program; `none` when it refuses the arguments. -/
def runProgram (read : String → Except FileError String) (setting : Option String)
    (arguments : List String) : Option RunResult :=
  (Request.parse arguments).map fun request => .ofReport setting (request.run read)

end ColumnCast
