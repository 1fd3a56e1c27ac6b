import BulkImport.Config.Environment
import BulkImport.Json.Basic

/-!
# Logging configuration

How much is logged, where it goes and in which form.  The environment may override every field;
main statement: an environment that sets nothing changes nothing (`mergeEnvironment_unset`).
-/

namespace BulkImport.Logging

/-- The least important record that is logged. -/
inductive Level where
  | trace
  | debug
  | info
  | warn
  | error
deriving DecidableEq

/-- The word for a level. -/
def Level.name : Level → String
  | .trace => "trace"
  | .debug => "debug"
  | .info => "info"
  | .warn => "warn"
  | .error => "error"

instance : Vocabulary Level where
  all := [.trace, .debug, .info, .warn, .error]
  word := Level.name
  aliases
    | .warn => ["warning"]
    | _ => []

/-- Where records go. -/
inductive Output where
  | console
  | file
  | both
deriving DecidableEq

/-- The word for an output. -/
def Output.name : Output → String
  | .console => "console"
  | .file => "file"
  | .both => "both"

instance : Vocabulary Output where
  all := [.console, .file, .both]
  word := Output.name
  aliases
    | .console => ["stdout"]
    | .file => []
    | .both => ["all"]

/-- How records are written. -/
inductive Format where
  | text
  | json
deriving DecidableEq

/-- The word for a format. -/
def Format.name : Format → String
  | .text => "text"
  | .json => "json"

instance : Vocabulary Format where
  all := [.text, .json]
  word := Format.name
  aliases
    | .text => ["pretty"]
    | .json => []

/-- How logging is set up. -/
structure Config where
  level : Level := .info
  output : Output := .console
  format : Format := .text
  directory : String := "./logs"
  /-- What the names of log files begin with. -/
  fileStem : String := "geoload"
  /-- Levels of single targets. -/
  filterDirectives : Option String := none
  includeLocation : Bool := false
  includeThreadIds : Bool := false
  includeTargets : Bool := true
deriving DecidableEq

namespace Config

/-- The meaning of a word for a setting, or the error that names the variable of the setting. -/
def parse {α : Type} [Vocabulary α] (variableName value : String) :
    Except Environment.Error α :=
  match Vocabulary.ofSpelling? value with
  | some a => .ok a
  | none => .error ⟨variableName, value⟩

/-- A level. -/
def parseLevel (value : String) : Except Environment.Error Level := parse "LOG_LEVEL" value

/-- An output. -/
def parseOutput (value : String) : Except Environment.Error Output := parse "LOG_OUTPUT" value

/-- A format. -/
def parseFormat (value : String) : Except Environment.Error Format := parse "LOG_FORMAT" value

/-- A field that a variable overrides when it is set. -/
def override {α : Type} (env : Environment) (variableName : String)
    (parse : String → Except Environment.Error α) (current : α) : Except Environment.Error α :=
  match env.read? variableName with
  | some v => parse v
  | none => .ok current

/-- The configuration with every field overridden that the environment sets. -/
def mergeEnvironment (c : Config) (env : Environment) : Except Environment.Error Config := do
  let level ← override env "LOG_LEVEL" parseLevel c.level
  let output ← override env "LOG_OUTPUT" parseOutput c.output
  let format ← override env "LOG_FORMAT" parseFormat c.format
  let directory := env.readOr "LOG_DIR" c.directory
  let fileStem := env.readOr "LOG_FILE_PREFIX" c.fileStem
  let filterDirectives := (env.read? "LOG_FILTER").or c.filterDirectives
  let includeLocation ← env.parseOr "LOG_INCLUDE_LOCATION" Environment.flag? c.includeLocation
  let includeThreadIds ← env.parseOr "LOG_INCLUDE_THREAD_IDS" Environment.flag? c.includeThreadIds
  let includeTargets ← env.parseOr "LOG_INCLUDE_TARGETS" Environment.flag? c.includeTargets
  return { level := level, output, format, directory, fileStem, filterDirectives,
           includeLocation, includeThreadIds, includeTargets }

/-- The configuration that the environment describes. -/
def ofEnvironment (env : Environment) : Except Environment.Error Config :=
  mergeEnvironment {} env

theorem mergeEnvironment_unset (c : Config) : c.mergeEnvironment (fun _ => none) = .ok c := by
  cases c
  simp [mergeEnvironment, override, Environment.parseOr, Environment.readOr, Environment.read?,
    bind, Except.bind, pure, Except.pure]

/-- What the program that sets logging up may choose before the environment is looked at. -/
structure Choices where
  level : Option String := none
  output : Option String := none
  format : Option String := none
  directory : Option String := none
  fileStem : Option String := none
  filterDirectives : Option String := none
  includeLocation : Option Bool := none

/-- A choice that is read from text, or what holds without it. -/
def choose {α : Type} (parse : String → Except Environment.Error α) (default : α) :
    Option String → Except Environment.Error α
  | some v => parse v
  | none => .ok default

/-- The configuration after the choices and then the environment. -/
def ofChoices (choices : Choices) (env : Environment) : Except Environment.Error Config := do
  let defaults : Config := {}
  let level ← choose parseLevel defaults.level choices.level
  let output ← choose parseOutput defaults.output choices.output
  let format ← choose parseFormat defaults.format choices.format
  let chosen : Config :=
    { level := level, output, format,
      directory := choices.directory.getD defaults.directory
      fileStem := choices.fileStem.getD defaults.fileStem
      filterDirectives := choices.filterDirectives.or defaults.filterDirectives
      includeLocation := choices.includeLocation.getD defaults.includeLocation }
  chosen.mergeEnvironment env

/-- A logging configuration in JSON. -/
def toJson (c : Config) : Json :=
  .object [("level", Json.ofWord c.level), ("output", Json.ofWord c.output),
    ("format", Json.ofWord c.format), ("log_dir", .text c.directory),
    ("log_file_prefix", .text c.fileStem),
    ("filter_directives", Json.ofNullable .text c.filterDirectives),
    ("include_location", .bool c.includeLocation),
    ("include_thread_ids", .bool c.includeThreadIds),
    ("include_targets", .bool c.includeTargets)]

end Config

end BulkImport.Logging
