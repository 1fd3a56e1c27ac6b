import BulkImport.Database.Error
import BulkImport.Sql.Template
import BulkImport.Text.Vocabulary

/-!
# Import failures

What can end an import.  Every failure determines the pair that is stored on the job (which part
of the work failed, and how), whether it was found before anything was changed, and whether one
may hand the import in again.  Main statement: a lost connection is reported as such from every
stage (`errorType_during_noConnection`).
-/

namespace BulkImport.Job

open BulkImport.Sql

/-- A part of the work on an import. -/
inductive Stage where
  | validation
  | preparation
  | execution
  | finalization
deriving DecidableEq

/-- The word for a stage. -/
def Stage.name : Stage → String
  | .validation => "validation"
  | .preparation => "preparation"
  | .execution => "execution"
  | .finalization => "finalization"

instance : Vocabulary Stage where
  all := [.validation, .preparation, .execution, .finalization]
  word := Stage.name

/-- Which part of the work failed, as stored on a job. -/
inductive ErrorType where
  | validationFailed
  | preparationFailed
  | executionFailed
  | finalizationFailed
  | noDbConnection
deriving DecidableEq

/-- The word for a failed part. -/
def ErrorType.name : ErrorType → String
  | .validationFailed => "validation_failed"
  | .preparationFailed => "preparation_failed"
  | .executionFailed => "execution_failed"
  | .finalizationFailed => "finalization_failed"
  | .noDbConnection => "no_db_connection"

instance : Vocabulary ErrorType where
  all := [.validationFailed, .preparationFailed, .executionFailed, .finalizationFailed,
    .noDbConnection]
  word := ErrorType.name

/-- The failed part that belongs to a stage. -/
def Stage.errorType : Stage → ErrorType
  | .validation => .validationFailed
  | .preparation => .preparationFailed
  | .execution => .executionFailed
  | .finalization => .finalizationFailed

/-- What went wrong, as stored on a job. -/
inductive ErrorDescription where
  | uploadMissing
  | invalidFile
  | noValidFilesFound
  | idxCreationFailed
  | allImportsFailed
  | importsPartiallyFailed
  | targetTableMissing
  | tableCleanupFailed
  | readonlyModeFailed
  | sequenceNotZero
  | unexpectedError
deriving DecidableEq

/-- The word for what went wrong. -/
def ErrorDescription.name : ErrorDescription → String
  | .uploadMissing => "UPLOAD_MISSING"
  | .invalidFile => "INVALID_FILE"
  | .noValidFilesFound => "NO_VALID_FILES_FOUND"
  | .idxCreationFailed => "IDX_CREATION_FAILED"
  | .allImportsFailed => "ALL_IMPORTS_FAILED"
  | .importsPartiallyFailed => "IMPORTS_PARTIALLY_FAILED"
  | .targetTableMissing => "TARGET_TABLE_DOES_NOT_EXISTS"
  | .tableCleanupFailed => "TABLE_CLEANUP_FAILED"
  | .readonlyModeFailed => "READONLY_MODE_FAILED"
  | .sequenceNotZero => "SEQUENCE_NOT_0"
  | .unexpectedError => "UNEXPECTED_ERROR"

instance : Vocabulary ErrorDescription where
  all := [.uploadMissing, .invalidFile, .noValidFilesFound, .idxCreationFailed,
    .allImportsFailed, .importsPartiallyFailed, .targetTableMissing, .tableCleanupFailed,
    .readonlyModeFailed, .sequenceNotZero, .unexpectedError]
  word := ErrorDescription.name

/-- What can end an import. -/
inductive Failure where
  /-- The job carries no uploaded file. -/
  | uploadMissing
  /-- No uploaded file is valid. -/
  | noValidFilesFound
  /-- The target table does not exist. -/
  | targetTableMissing (table : String)
  /-- The table was written to before: its version sequence gave this number. -/
  | sequenceNotZero (version : Int64)
  /-- Not one of the files, this many, could be loaded. -/
  | allImportsFailed (files : Nat)
  /-- The staging facade could not be taken down. -/
  | tableCleanupFailed (message : String)
  /-- The database could not be reached. -/
  | noConnection (message : String)
  /-- Anything else, during a stage. -/
  | unexpected (stage : Stage) (message : String)
deriving DecidableEq

namespace Failure

/-- What is reported for a failure. -/
def message : Failure → String
  | uploadMissing => "Job carries no uploaded files"
  | noValidFilesFound => "None of the uploaded files is valid"
  | targetTableMissing table => "Target table '" ++ table ++ "' does not exist"
  | sequenceNotZero version =>
    "Target table is not empty: version sequence returned " ++ toString version.toInt
  | allImportsFailed files => "All " ++ toString files ++ " file imports failed"
  | tableCleanupFailed m => "Table cleanup failed: " ++ m
  | noConnection m => "No database connection: " ++ m
  | unexpected stage m => "Unexpected error during " ++ stage.name ++ ": " ++ m

/-- The failed part that is stored on the job. -/
def errorType : Failure → ErrorType
  | uploadMissing | noValidFilesFound | targetTableMissing _ => .validationFailed
  | sequenceNotZero _ => .preparationFailed
  | allImportsFailed _ => .executionFailed
  | tableCleanupFailed _ => .finalizationFailed
  | noConnection _ => .noDbConnection
  | unexpected stage _ => stage.errorType

/-- The description that is stored on the job. -/
def errorDescription : Failure → ErrorDescription
  | uploadMissing => .uploadMissing
  | noValidFilesFound => .noValidFilesFound
  | targetTableMissing _ => .targetTableMissing
  | sequenceNotZero _ => .sequenceNotZero
  | allImportsFailed _ => .allImportsFailed
  | tableCleanupFailed _ => .tableCleanupFailed
  | noConnection _ | unexpected _ _ => .unexpectedError

/-- Whether the failure was found before the target was changed. -/
def isPrecondition : Failure → Bool
  | uploadMissing | noValidFilesFound | targetTableMissing _ | sequenceNotZero _
  | unexpected .validation _ => true
  | _ => false

/-- Whether the import may be handed in again once the database can be reached. -/
def isRetryable : Failure → Bool
  | noConnection _ => true
  | _ => false

/-- The failure that a database error during a stage amounts to. -/
def ofDatabase (stage : Stage) : Database.Error → Failure
  | .noConnection m => noConnection m
  | e => unexpected stage e.message

/-- The failure that a statement which cannot be built amounts to. -/
def ofBuild (stage : Stage) (e : BuildError) : Failure := unexpected stage e.message

theorem errorType_during_noConnection (stage : Stage) (m : String) :
    (ofDatabase stage (.noConnection m)).errorType = .noDbConnection := rfl

end Failure

end BulkImport.Job
