/-!
# Command-line arguments

`Request.parse` reads the arguments of the program. A `Grammar` lists the options of a
subcommand; an option that takes a value takes it from the same argument or from the next one.
Options come in any order. A subcommand that takes values besides its options takes everything
from the first value on, hyphens included.
-/

namespace ColumnCast

/-- What the user asks the program to do. -/
inductive Request where
  | targets (source : String) (json : Bool)
  | check (schema : String) (rules : List String) (emitSchema : Bool)
  | convert (source target : String) (values : List String)
  | version
  | help
  deriving DecidableEq

namespace Arguments

/-- What an option does with the arguments. -/
inductive OptionKind where
  | flag
  | single
  | repeated
  | help
  deriving DecidableEq

/-- An option: its name after two hyphens, its letter after one, and whether its value may be
empty. -/
structure OptionSpec where
  name : String
  letter : Option Char
  kind : OptionKind
  mayBeEmpty : Bool
  deriving DecidableEq

namespace OptionSpec

/-- The option takes a value. -/
def takesValue (o : OptionSpec) : Bool :=
  o.kind = .single || o.kind = .repeated

end OptionSpec

/-- The options of a subcommand and whether it takes values besides them. -/
structure Grammar where
  options : List OptionSpec
  takesValues : Bool

/-- The options that have been given, in order, with their values, and the values besides
them. -/
structure Given where
  options : List (String × String)
  values : List String
  deriving DecidableEq

/-- Why reading the arguments ends early. -/
inductive Stop where
  | refused
  | help
  deriving DecidableEq

namespace Given

/-- Nothing has been given. -/
def nothing : Given := ⟨[], []⟩

/-- The values of an option. -/
def all (g : Given) (name : String) : List String :=
  (g.options.filter fun entry => entry.1 = name).map Prod.snd

/-- The value of an option that must have been given. -/
def required (g : Given) (name : String) : Except Stop String :=
  match g.all name with
  | value :: _ => .ok value
  | [] => .error .refused

/-- The option has been given. -/
def has (g : Given) (name : String) : Bool :=
  !(g.all name).isEmpty

/-- Adds an option. Only a repeated one may be given twice. -/
def add (g : Given) (o : OptionSpec) (value : String) : Except Stop Given :=
  if (o.kind ≠ .repeated ∧ g.has o.name) ∨ (o.takesValue ∧ ¬o.mayBeEmpty ∧ value = "") then
    .error .refused
  else .ok { g with options := g.options ++ [(o.name, value)] }

end Given

/-! ### Reading -/

/-- What one argument says, hyphens taken into account. -/
inductive Word where
  | separator
  | long (name : String) (value : Option String)
  | letters (letters : List Char)
  | plain

/-- Splits a text at its first equals sign. -/
def splitEquals : List Char → List Char × Option (List Char)
  | [] => ([], none)
  | '=' :: rest => ([], some rest)
  | c :: rest =>
    let (before, after) := splitEquals rest
    (c :: before, after)

/-- What an argument says. -/
def Word.ofArgument (argument : String) : Word :=
  match argument.toList with
  | ['-', '-'] => .separator
  | '-' :: '-' :: rest =>
    let (name, value) := splitEquals rest
    .long (String.ofList name) (value.map String.ofList)
  | '-' :: c :: rest => .letters (c :: rest)
  | _ => .plain

namespace Grammar

/-- The option with this name. -/
def long? (g : Grammar) (name : String) : Option OptionSpec :=
  g.options.find? fun o => o.name = name

/-- The option with this letter. -/
def letter? (g : Grammar) (letter : Char) : Option OptionSpec :=
  g.options.find? fun o => o.letter = some letter

/-- The argument cannot be read as options, so that it is a value. -/
def isValue (g : Grammar) (word : Word) : Bool :=
  match word with
  | .plain => true
  | .separator => false
  | .long name _ => g.takesValues && (g.long? name).isNone
  | .letters letters => g.takesValues && letters.any fun c => (g.letter? c).isNone

/-- Reads an option by its name. The option that waits for its value is returned. -/
def readLong (g : Grammar) (given : Given) (name : String) (value : Option String) :
    Except Stop (Given × Option OptionSpec) :=
  match g.long? name, value with
  | none, _ => .error .refused
  | some o, some value =>
    if o.takesValue then (given.add o value).map fun given => (given, none) else .error .refused
  | some o, none =>
    if o.takesValue then .ok (given, some o)
    else if o.kind = .help then .error .help
    else (given.add o "").map fun given => (given, none)

/-- Reads options by their letters. What follows the letter of an option that takes a value is
that value, with or without an equals sign between them. -/
def readLetters (g : Grammar) : Given → List Char → Except Stop (Given × Option OptionSpec)
  | given, [] => .ok (given, none)
  | given, c :: rest =>
    match g.letter? c with
    | none => .error .refused
    | some o =>
      if o.takesValue then
        match rest with
        | [] => .ok (given, some o)
        | '=' :: value => (given.add o (String.ofList value)).map fun given => (given, none)
        | value => (given.add o (String.ofList value)).map fun given => (given, none)
      else if o.kind = .help then .error .help
      else
        match given.add o "" with
        | .ok given => readLetters g given rest
        | .error stop => .error stop

/-- Takes the rest of the arguments as values. -/
def readValues (g : Grammar) (given : Given) (values : List String) : Except Stop Given :=
  if values = [] ∨ g.takesValues then .ok { given with values } else .error .refused

/-- Reads arguments; an option may wait for its value, which must come next. -/
def read (g : Grammar) : Given → Option OptionSpec → List String → Except Stop Given
  | given, none, [] => .ok given
  | _, some _, [] => .error .refused
  | given, waiting, argument :: rest =>
    let word := Word.ofArgument argument
    if g.isValue word then
      match waiting with
      | some o =>
        match given.add o argument with
        | .ok given => read g given none rest
        | .error stop => .error stop
      | none => readValues g given (argument :: rest)
    else if waiting.isSome then .error .refused
    else
      let options :=
        match word with
        | .long name value => readLong g given name value
        | .letters letters => readLetters g given letters
        | .separator | .plain => .error .refused
      match word, options with
      | .separator, _ => readValues g given rest
      | _, .ok (given, waiting) => read g given waiting rest
      | _, .error stop => .error stop

end Grammar

/-! ### Subcommands -/

/-- The option that every subcommand has. -/
def helpOption : OptionSpec := ⟨"help", some 'h', .help, true⟩

/-- The options of `targets`. -/
def targetsGrammar : Grammar :=
  ⟨[⟨"source", some 's', .single, true⟩, ⟨"json", none, .flag, true⟩, helpOption], false⟩

/-- The options of `check`. -/
def checkGrammar : Grammar :=
  ⟨[⟨"schema", some 's', .single, false⟩, ⟨"field-type", some 't', .repeated, true⟩,
    ⟨"emit-schema", none, .flag, true⟩, helpOption], false⟩

/-- The options of `convert`. -/
def convertGrammar : Grammar :=
  ⟨[⟨"from", some 'f', .single, true⟩, ⟨"to", some 't', .single, true⟩, helpOption], true⟩

/-- Reads the arguments of `targets`. -/
def readTargets (arguments : List String) : Except Stop Request := do
  let given ← targetsGrammar.read .nothing none arguments
  return .targets (← given.required "source") (given.has "json")

/-- Reads the arguments of `check`. -/
def readCheck (arguments : List String) : Except Stop Request := do
  let given ← checkGrammar.read .nothing none arguments
  let schema ← given.required "schema"
  let _ ← given.required "field-type"
  return .check schema (given.all "field-type") (given.has "emit-schema")

/-- Reads the arguments of `convert`. -/
def readConvert (arguments : List String) : Except Stop Request := do
  let given ← convertGrammar.read .nothing none arguments
  let source ← given.required "from"
  let target ← given.required "to"
  if given.values = [] then throw .refused
  return .convert source target given.values

/-- The subcommands that help can be asked about. -/
def subcommands : List String :=
  ["targets", "check", "convert", "help"]

/-- Reads an argument in front of all subcommands. -/
def readGlobal (argument : String) : Except Stop Request :=
  match Word.ofArgument argument with
  | .long name none =>
    if name = "help" then .ok .help
    else if name = "version" then .ok .version
    else .error .refused
  | .letters ('h' :: _) => .ok .help
  | .letters ('V' :: _) => .ok .version
  | _ => .error .refused

/-- Reads the topics of `help`. -/
def readHelp : List String → Except Stop Request
  | [] => .ok .help
  | [topic] => if topic ∈ subcommands then .ok .help else .error .refused
  | _ => .error .refused

end Arguments

namespace Request

open Arguments

/-- Reads the arguments of the program; `none` when they are refused. -/
def parse (arguments : List String) : Option Request :=
  let request : Except Stop Request :=
    match arguments with
    | [] => .error .refused
    | "targets" :: rest => readTargets rest
    | "check" :: rest => readCheck rest
    | "convert" :: rest => readConvert rest
    | "help" :: rest => readHelp rest
    | argument :: _ => readGlobal argument
  match request with
  | .ok request => some request
  | .error .help => some .help
  | .error .refused => none

end Request

end ColumnCast
