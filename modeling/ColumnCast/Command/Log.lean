import ColumnCast.Pattern.Meaning

/-!
# Log lines

Every part of the program reports what it does in log lines. A `LogFilter`, read from a setting
such as `program::plan=debug,info/column`, decides which of them are shown: the directive with
the longest name that the name of a line's origin begins with gives the level, and the pattern
after a slash must match somewhere in the message.
-/

namespace ColumnCast

/-- How important a log line is. -/
inductive LogLevel where
  | error
  | warn
  | info
  | debug
  | trace
  deriving DecidableEq

namespace LogLevel

/-- The place in the order of importance, the most important first. -/
def rank : LogLevel → Nat
  | error => 1
  | warn => 2
  | info => 3
  | debug => 4
  | trace => 5

/-- The name of a level. -/
def name : LogLevel → String
  | error => "ERROR"
  | warn => "WARN"
  | info => "INFO"
  | debug => "DEBUG"
  | trace => "TRACE"

/-- All levels. -/
def all : List LogLevel :=
  [error, warn, info, debug, trace]

end LogLevel

/-- The parts of the program that report. -/
inductive LogOrigin where
  | program
  | converter
  | plan
  deriving DecidableEq

namespace LogOrigin

/-- The name of a part. -/
def name : LogOrigin → String
  | program => "parquet_retype"
  | converter => "parquet_retype::converter"
  | plan => "parquet_retype::plan"

end LogOrigin

/-- A report of a part of the program. -/
structure LogLine where
  level : LogLevel
  origin : LogOrigin
  message : String
  deriving DecidableEq

namespace LogLine

/-- The line as text. -/
def text (l : LogLine) : String :=
  l.level.name ++ " " ++ l.origin.name ++ ": " ++ l.message

end LogLine

/-! ### Filters -/

/-- The level up to which lines are shown, for the origins whose names begin with `name`, or
for all; without a level none is shown. -/
structure LogDirective where
  name : Option String
  limit : Option LogLevel
  deriving DecidableEq

/-- What decides which lines are shown. -/
structure LogFilter where
  directives : List LogDirective
  pattern : Option Pattern.Matcher

namespace LogDirective

/-- The level that a word stands for, in any ASCII case. -/
def limit? (word : String) : Option (Option LogLevel) :=
  let name := String.ofList (Text.upper word.toList)
  if name = "OFF" then some none
  else (LogLevel.all.find? fun level => level.name = name).map some

/-- The directive applies to an origin. -/
def covers (d : LogDirective) (origin : LogOrigin) : Bool :=
  match d.name with
  | some name => name.toList.isPrefixOf origin.name.toList
  | none => true

/-- The length of the name. -/
def size (d : LogDirective) : Nat :=
  match d.name with
  | some name => name.utf8ByteSize
  | none => 0

/-- The directive shows lines of this level. -/
def shows (d : LogDirective) (level : LogLevel) : Bool :=
  d.limit.any fun limit => level.rank ≤ limit.rank

/-- Reads a directive: a level, a name, or both. A name alone shows everything. The part that
makes no sense is reported. -/
def parse (text : String) : Except String LogDirective :=
  match (Text.splitAll '=' text.toList).map String.ofList with
  | [word] =>
    match limit? word with
    | some limit => .ok ⟨none, limit⟩
    | none => .ok ⟨some word, some .trace⟩
  | [name, word] =>
    let word := Text.trimmed word
    if word = "" then .ok ⟨some name, some .trace⟩
    else
      match limit? word with
      | some limit => .ok ⟨some name, limit⟩
      | none => .error word
  | _ => .error text

end LogDirective

namespace LogFilter

/-- The filter without a setting. -/
def standard : LogFilter :=
  ⟨[⟨some LogOrigin.program.name, some .info⟩], none⟩

/-- The warning that something in a setting is left out of account. -/
def warning (problem : String) : String :=
  "warning: " ++ problem ++ ", ignoring it"

/-- What is wrong with a part of a setting. -/
def badPart (part : String) : String :=
  "invalid logging spec '" ++ part ++ "'"

/-- Adds a directive, at the place of the one with the same name if there is one. -/
def insert : List LogDirective → LogDirective → List LogDirective
  | [], d => [d]
  | other :: rest, d => if other.name = d.name then d :: rest else other :: insert rest d

/-- Reads directives that are separated by commas, with the warnings about those that make no
sense. -/
def parseDirectives (parts : List String) : List LogDirective × List String :=
  let results := parts.map LogDirective.parse
  (results.foldl (fun ds r => match r with
      | .ok d => insert ds d
      | .error _ => ds) [],
    results.filterMap fun
      | .ok _ => none
      | .error part => some (warning (badPart part)))

/-- Reads the pattern of a setting. One that makes no sense is no pattern. -/
def parsePattern (text : String) : Option Pattern.Matcher × List String :=
  match Pattern.Matcher.parse text with
  | .ok m => (some m, [])
  | .error e => (none, [warning ("invalid regex filter - " ++ e.text text)])

/-- The filter of directives and a pattern; without a directive only errors are shown. -/
def ofParts (directives : List LogDirective) (pattern : Option Pattern.Matcher) : LogFilter :=
  ⟨if directives = [] then [⟨none, some .error⟩] else directives, pattern⟩

/-- Reads a setting: directives and, behind a slash, a pattern. -/
def parse (setting : String) : LogFilter × List String :=
  let read (directives : List Char) : List LogDirective × List String :=
    let parts := ((Text.splitAll ',' directives).map Text.trim).filter (· ≠ [])
    parseDirectives (parts.map String.ofList)
  match Text.splitAll '/' setting.toList with
  | [directives] =>
    let (ds, warnings) := read directives
    (ofParts ds none, warnings)
  | [directives, text] =>
    let (ds, warnings) := read directives
    let (pattern, moreWarnings) := parsePattern (String.ofList text)
    (ofParts ds pattern, warnings ++ moreWarnings)
  | _ => (ofParts [] none, [warning (badPart setting ++ " (too many '/'s)")])

/-- The directive that applies to an origin: of those with the longest name the last. -/
def directive? (f : LogFilter) (origin : LogOrigin) : Option LogDirective :=
  (f.directives.filter fun d => d.covers origin).foldl (fun best d =>
    match best with
    | some other => if other.size ≤ d.size then some d else best
    | none => some d) none

/-- The pattern matches somewhere in the message. -/
def matchesMessage (f : LogFilter) (message : String) : Bool :=
  f.pattern.all fun m => m.occursIn message

/-- The line is shown. -/
def shows (f : LogFilter) (l : LogLine) : Bool :=
  (f.directive? l.origin).any (fun d => d.shows l.level) && f.matchesMessage l.message

end LogFilter

end ColumnCast
