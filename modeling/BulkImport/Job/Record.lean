import BulkImport.Job.Failure
import BulkImport.Job.Status
import BulkImport.Text.Dictionary

/-!
# Job records

An import or an export as it is stored.  Both carry an envelope with the facts of their life, and
an import carries the files that were uploaded for it and the indices that were built for it.
The operations on an import keep these rules: its status moves only forward (`advance`), its space
version is set once (`setSpaceVersion`), and an index is listed once (`addIndex`).
-/

namespace BulkImport

open BulkImport.Job

/-- What a job is for. -/
inductive Job.Kind where
  | importing
  | exporting
deriving DecidableEq

/-- The word for what a job is for. -/
def Job.Kind.name : Job.Kind → String
  | .importing => "Import"
  | .exporting => "Export"

instance : Vocabulary Job.Kind where
  all := [.importing, .exporting]
  word := Job.Kind.name

/-- The layout of uploaded files. -/
inductive CsvFormat where
  | geojson
  | jsonWkt
  | jsonWkb
deriving DecidableEq

/-- The word for a layout of files. -/
def CsvFormat.name : CsvFormat → String
  | .geojson => "GEOJSON"
  | .jsonWkt => "JSON_WKT"
  | .jsonWkb => "JSON_WKB"

instance : Vocabulary CsvFormat where
  all := [.geojson, .jsonWkt, .jsonWkb]
  word := CsvFormat.name

/-- What happens to features that are there already. -/
inductive Strategy where
  | lastWins
  | skipExisting
  | error
deriving DecidableEq

/-- The word for a strategy. -/
def Strategy.name : Strategy → String
  | .lastWins => "LASTWINS"
  | .skipExisting => "SKIPEXISTING"
  | .error => "ERROR"

instance : Vocabulary Strategy where
  all := [.lastWins, .skipExisting, .error]
  word := Strategy.name

/-- The time of creation and of change until the repository sets them: the first of October 2018,
in milliseconds. -/
def defaultTimestamp : Int64 := 1538352000000

/-- The facts of a job's life. -/
structure Envelope where
  id : String := ""
  description : Option String := none
  createdAt : Int64 := defaultTimestamp
  updatedAt : Int64 := defaultTimestamp
  executedAt : Option Int64 := none
  finalizedAt : Option Int64 := none
  /-- When the job expires, in seconds. -/
  expiry : Option Int64 := none
  targetSpaceId : Option String := none
  targetTable : Option String := none
  targetConnector : Option String := none
  status : Status := .waiting
  errorType : Option ErrorType := none
  errorDescription : Option ErrorDescription := none
  csvFormat : Option CsvFormat := none
  strategy : Option Strategy := none
  spaceVersion : Option Int64 := none
  author : Option String := none
deriving DecidableEq

/-- What became of an uploaded file. -/
inductive Upload.Status where
  | waiting
  | imported
  | failed
deriving DecidableEq

/-- The word for what became of an uploaded file. -/
def Upload.Status.name : Upload.Status → String
  | .waiting => "waiting"
  | .imported => "imported"
  | .failed => "failed"

instance : Vocabulary Upload.Status where
  all := [.waiting, .imported, .failed]
  word := Upload.Status.name

/-- A file that was uploaded to object storage. -/
structure Upload where
  filename : String
  key : String
  bucket : String
  region : String
  filesize : Option UInt64 := none
  valid : Bool := false
  status : Upload.Status := .waiting
  /-- The answer of the loader, or why the file is not loaded. -/
  details : Option String := none
deriving DecidableEq

/-- The upload with its size; an empty file is not valid. -/
def Upload.withFilesize (u : Upload) (size : UInt64) : Upload :=
  { u with filesize := some size, valid := decide (size ≠ 0) }

/-- An import of uploaded files into a table. -/
structure ImportJob extends Envelope where
  enabledUuid : Bool := false
  /-- An entry for every index that was built. -/
  indexEntries : List String := []
  /-- The uploaded files, each under a key. -/
  uploads : Dictionary Upload := Dictionary.empty
deriving DecidableEq

/-- A stored job. -/
inductive Job where
  | importing (job : ImportJob)
  | exporting (envelope : Envelope)
deriving DecidableEq

/-- Why a change of a job is refused. -/
inductive Job.ChangeError where
  | illegalTransition (current next : Status)
  | spaceVersionAlreadySet (version : Int64)
deriving DecidableEq

/-- What is reported for a refused change. -/
def Job.ChangeError.message : Job.ChangeError → String
  | .illegalTransition current next =>
    "Illegal status transition " ++ current.name ++ " -> " ++ next.name
  | .spaceVersionAlreadySet version =>
    "Space version already set to " ++ toString version.toInt

namespace ImportJob

/-- A new import into a table of a space. -/
def create (description space table : String) (enabledUuid : Bool) (csvFormat : CsvFormat)
    (strategy : Strategy) : ImportJob :=
  { description := some description
    targetSpaceId := some space
    targetTable := some table
    csvFormat := some csvFormat
    strategy := some strategy
    enabledUuid := enabledUuid }

/-- The uploads that can be loaded, in the order of their keys. -/
def validUploads (job : ImportJob) : List Upload :=
  job.uploads.values.filter (·.valid)

/-- The job with an upload under its own filename. -/
def addUpload (job : ImportJob) (u : Upload) : ImportJob :=
  { job with uploads := job.uploads.insert u.filename u }

/-- The job moved on to another status. -/
def advance (job : ImportJob) (next : Status) : Except ChangeError ImportJob :=
  if job.status.CanAdvanceTo next then .ok { job with status := next }
  else .error (.illegalTransition job.status next)

/-- The job with its space version, which is set once. -/
def setSpaceVersion (job : ImportJob) (version : Int64) : Except ChangeError ImportJob :=
  match job.spaceVersion with
  | none => .ok { job with spaceVersion := some version }
  | some current => .error (.spaceVersionAlreadySet current)

/-- The job with an index listed, once. -/
def addIndex (job : ImportJob) (entry : String) : ImportJob :=
  if entry ∈ job.indexEntries then job
  else { job with indexEntries := job.indexEntries ++ [entry] }

/-- The status a failure leads to. -/
def failureStatus (f : Failure) : Status :=
  if f.isPrecondition then .aborted else .failed

/-- The job after a failure.  A job that has ended keeps its status, and a failed cleanup keeps a
description that is there already. -/
def failWith (job : ImportJob) (f : Failure) : ImportJob :=
  let ended := (job.advance (failureStatus f)).toOption.getD job
  let description :=
    match f, job.errorDescription with
    | .tableCleanupFailed _, some earlier => earlier
    | _, _ => f.errorDescription
  { ended with errorType := some f.errorType, errorDescription := some description }

end ImportJob

namespace Job

/-- The facts of a job's life. -/
def envelope : Job → Envelope
  | importing job => job.toEnvelope
  | exporting e => e

/-- The job with other facts of its life. -/
def withEnvelope (job : Job) (e : Envelope) : Job :=
  match job with
  | importing i => importing { i with toEnvelope := e }
  | exporting _ => exporting e

/-- What the job is for. -/
def kind : Job → Kind
  | importing _ => .importing
  | exporting _ => .exporting

/-- The import, if it is one. -/
def import? : Job → Option ImportJob
  | importing job => some job
  | exporting _ => none

/-- The name of the job. -/
def id (job : Job) : String := job.envelope.id

/-- Where the job stands. -/
def status (job : Job) : Status := job.envelope.status

/-- An import that has been taken up and has not ended. -/
def isRunningImport (job : Job) : Bool :=
  job.kind == .importing && job.status.isRunning

/-- What a listing is restricted to; a criterion that is not given admits every job. -/
structure Filter where
  kind : Option Kind := none
  status : Option Status := none
  space : Option String := none
deriving DecidableEq

/-- Whether a job meets every criterion. -/
def Filter.admits (f : Filter) (job : Job) : Bool :=
  f.kind.all (· == job.kind) && f.status.all (· == job.status) &&
    f.space.all fun s => job.envelope.targetSpaceId == some s

end Job

end BulkImport
