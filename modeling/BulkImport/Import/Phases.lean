import BulkImport.Import.Steps

/-!
# The phases of an import

An import is validated, prepared, executed and finalized.  Each phase takes the job as it stands
and gives the job as it leaves it, also where the phase fails.  Nothing outside the job and the
answers of its surroundings decides what a phase does.
-/

namespace BulkImport.Import

open BulkImport.Job BulkImport.Sql BulkImport.Table

/-- Who does imports: the settings, and whether uploads are looked up in object storage. -/
structure Importer where
  settings : Settings
  inspects : Bool := false

/-- A job after some work, with what came of the work. -/
abbrev Outcome := ImportJob × Except Failure Unit

/-- The connector and the table that a job is to fill, once the client of the connector is
found. -/
def target (stage : Stage) (job : ImportJob) : Attempt (String × Identifier) := do
  match job.targetConnector with
  | none => throw (.ofDatabase stage (.configuration "job has no target connector"))
  | some connector =>
    Attempt.database stage (connect connector)
    match job.targetTable with
    | none => throw (.ofDatabase stage (.configuration "job has no target table"))
    | some table =>
      let table ← Attempt.build stage (Identifier.build (Identifier.ofText table))
      return (connector, table)

namespace Importer

/-- The target table is there, and the job has uploads. -/
def checkTarget (im : Importer) (job : ImportJob) : Attempt Unit := do
  let (connector, table) ← target .validation job
  let present ← Attempt.database .validation (tableExists connector im.settings.schema table)
  if !present then throw (.targetTableMissing table.text)
  if job.uploads.isEmpty then throw .uploadMissing

/-- An upload after it was looked up: it is valid when the object is there and not empty. -/
def inspected (u : Upload) : Except Unit (Option UInt64) → Upload
  | .ok (some size) => u.withFilesize size
  | .ok none => { u with valid := false }
  | .error _ => { u with valid := false }

/-- Look up these uploads, one after the other. -/
def inspectAll : List (String × Upload) → Action (List (String × Except Unit (Option UInt64)))
  | [] => pure []
  | (key, u) :: rest => do
    let found ← inspect u.bucket u.key
    let others ← inspectAll rest
    return (key, found) :: others

/-- The uploads after the look-ups that were made for them. -/
def applyInspections (uploads : Dictionary Upload)
    (found : List (String × Except Unit (Option UInt64))) : Dictionary Upload :=
  uploads.mapValues fun key u =>
    match found.lookup key with
    | some r => inspected u r
    | none => u

/-- An upload that is not valid says so, unless it says something already. -/
def markInvalid (u : Upload) : Upload :=
  if u.valid then u
  else { u with details := some (u.details.getD ErrorDescription.invalidFile.name) }

/-- The target table is there, and at least one upload can be used. -/
def validate (im : Importer) (job : ImportJob) : Action Outcome := do
  match ← (im.checkTarget job).run with
  | .error f => return (job, .error f)
  | .ok _ =>
    let found ← if im.inspects then inspectAll job.uploads.entries else pure []
    let uploads := (applyInspections job.uploads found).mapValues fun _ u => markInvalid u
    let job := { job with uploads := uploads }
    return (job, if job.validUploads.isEmpty then .error .noValidFilesFound else .ok ())

/-- What the trigger on the target table of a job writes into every row. -/
def stamp (im : Importer) (job : ImportJob) (version : Int64) : RowStamp :=
  { version := version, enableUuid := job.enabledUuid, layout := im.settings.layout,
    author := job.author.getD im.settings.author }

/-- Drop the indices of a claimed table and put the staging facade up. -/
def install (im : Importer) (job : ImportJob) (connector : String) (table : Identifier)
    (version : Int64) : Attempt Unit := do
  let schema := im.settings.schema
  let indices ← Attempt.database .preparation
    (fetchTexts connector (listIndicesStatement schema table))
  if !indices.isEmpty then
    executeBuilt .preparation connector (dropIndicesStatement schema indices)
  createTrigger connector schema table (im.stamp job version)
  if im.settings.useViewFacade then
    let _ ← createView connector schema table

/-- The job after its table was claimed.  A version that is not the first is kept on the job,
where none is kept yet, so that one can see what it was. -/
def afterClaim (job : ImportJob) : Except Failure Int64 → Outcome
  | .ok version =>
    match job.setSpaceVersion version with
    | .ok job => (job, .ok ())
    | .error e => (job, .error (.unexpected .preparation e.message))
  | .error f =>
    match f with
    | .sequenceNotZero version => ((job.setSpaceVersion version).toOption.getD job, .error f)
    | _ => (job, .error f)

/-- Claim the table, drop its indices and put the staging facade up. -/
def prepare (im : Importer) (job : ImportJob) : Action Outcome := do
  match ← (target .preparation job).run with
  | .error f => return (job, .error f)
  | .ok (connector, table) =>
    let claimed ← (claim connector im.settings.schema table).run
    match afterClaim job claimed with
    | (job, .error f) => return (job, .error f)
    | (job, .ok _) =>
      let installed ← (im.install job connector table freshVersion).run
      return (job, installed)

/-- Load one upload, through the view where there is one. -/
def load (im : Importer) (job : ImportJob) (u : Upload) : Attempt String := do
  let (connector, table) ← target .execution job
  let request := LoadRequest.ofUpload u
  if im.settings.useViewFacade then
    let view ← Attempt.build .execution (Identifier.build (viewName table))
    Attempt.database .execution
      (bulkLoad connector im.settings.schema view job.csvFormat .view request)
  else
    Attempt.database .execution
      (bulkLoad connector im.settings.schema table job.csvFormat .table request)

/-- An upload after the attempt to load it. -/
def loaded (u : Upload) : Except Failure String → Upload
  | .ok answer => { u with status := .imported, details := some answer }
  | .error f => { u with status := .failed, details := some f.message }

/-- Load the uploads under these keys, one after the other; gives the number of failures.  A lost
connection breaks off, and a key with no upload is passed over. -/
def loadAll (im : Importer) : List String → ImportJob → Action (ImportJob × Except Failure Nat)
  | [], job => pure (job, .ok 0)
  | key :: keys, job =>
    match job.uploads.find? key with
    | none => im.loadAll keys job
    | some u => do
      let result ← (im.load job u).run
      let job' := { job with uploads := job.uploads.insert key (loaded u result) }
      match result with
      | .ok _ => im.loadAll keys job'
      | .error f =>
        if f.isRetryable then return (job, .error f)
        else
          let (job'', rest) ← im.loadAll keys job'
          return (job'', rest.map (· + 1))

/-- What loading `total` uploads comes to when `failures` of them failed. -/
def loadVerdict (job : ImportJob) (total failures : Nat) : Outcome :=
  if 0 < failures ∧ failures = total then (job, .error (.allImportsFailed failures))
  else if 0 < failures then
    ({ job with errorDescription := some .importsPartiallyFailed }, .ok ())
  else (job, .ok ())

/-- Load every valid upload.  Only a lost connection and the failure of all of them stop the
import. -/
def execute (im : Importer) (job : ImportJob) : Action Outcome := do
  let keys := job.validUploads.map (·.filename)
  let (job, failures) ← im.loadAll keys job
  match failures with
  | .error f => return (job, .error f)
  | .ok n => return loadVerdict job keys.length n

/-- Take the staging facade down, the view also where the trigger stays; gives what went wrong. -/
def tearDown (im : Importer) (connector : String) (table : Identifier) : Action (List Failure) := do
  let trigger ← (dropTrigger connector im.settings.schema table).run
  let view ←
    if im.settings.useViewFacade then (dropView connector im.settings.schema table).run
    else pure (.ok ())
  return [trigger, view].filterMap fun
    | .ok _ => none
    | .error f => some f

/-- The job after its indices were built again. -/
def afterRebuild (job : ImportJob) (report : Report) : ImportJob :=
  let job := report.built.foldl ImportJob.addIndex job
  if report.isComplete then job
  else { job with errorDescription := some .idxCreationFailed }

/-- Build the indices again, take the facade down whatever came of that, and mark the table for
maintenance. -/
def finalize (im : Importer) (job : ImportJob) : Action Outcome := do
  match ← (target .finalization job).run with
  | .error f => return (job, .error f)
  | .ok (connector, table) =>
    let st := im.settings
    let report ← rebuild connector st.schema table st.layout st.segments
    let job := afterRebuild job report
    let failures ← im.tearDown connector table
    if !failures.isEmpty then
      let reasons := String.intercalate "; " (failures.map (·.message))
      return (job, .error (.tableCleanupFailed reasons))
    else
      match maintenanceStatement st.statusSchema st.statusTable table st.schema with
      | .error e => return (job, .error (.ofBuild .finalization e))
      | .ok s =>
        let _ ← Import.execute connector s
        return (job, .ok ())

end Importer

end BulkImport.Import
