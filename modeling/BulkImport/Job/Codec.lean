import BulkImport.Job.Record
import BulkImport.Json.Basic

/-!
# Jobs in JSON

A job is written as one object: the envelope, what an import adds to it, and under `type` what the
job is for.  Optional fields that have no value are left out.  Reading ignores fields it does not
know, takes the defaults for fields that are missing, and takes null for optional fields only.
-/

namespace BulkImport

open BulkImport.Job

/-- The members of an envelope. -/
def Envelope.members (e : Envelope) : List (String × Json) :=
  [("id", .text e.id)] ++
  Json.optionalMember "description" .text e.description ++
  [("createdAt", .integer e.createdAt.toInt), ("updatedAt", .integer e.updatedAt.toInt)] ++
  Json.optionalMember "executedAt" (fun t => .integer t.toInt) e.executedAt ++
  Json.optionalMember "finalizedAt" (fun t => .integer t.toInt) e.finalizedAt ++
  Json.optionalMember "exp" (fun t => .integer t.toInt) e.expiry ++
  Json.optionalMember "targetSpaceId" .text e.targetSpaceId ++
  Json.optionalMember "targetTable" .text e.targetTable ++
  Json.optionalMember "targetConnector" .text e.targetConnector ++
  [("status", Json.ofWord e.status)] ++
  Json.optionalMember "errorType" Json.ofWord e.errorType ++
  Json.optionalMember "errorDescription" Json.ofWord e.errorDescription ++
  Json.optionalMember "csvFormat" Json.ofWord e.csvFormat ++
  Json.optionalMember "strategy" Json.ofWord e.strategy ++
  Json.optionalMember "spaceVersion" (fun v => .integer v.toInt) e.spaceVersion ++
  Json.optionalMember "author" .text e.author

/-- The envelope among the members of an object.  Its words are read after the whole object has
been taken in, so an empty object does for a missing payload. -/
def Envelope.ofMembers? (ms : List (String × Json)) : Option Envelope := do
  let id ← Json.defaulted? ms "id" Json.text? ""
  let description ← Json.optional? ms "description" Json.text?
  let createdAt ← Json.defaulted? ms "createdAt" Json.int64? defaultTimestamp
  let updatedAt ← Json.defaulted? ms "updatedAt" Json.int64? defaultTimestamp
  let executedAt ← Json.optional? ms "executedAt" Json.int64?
  let finalizedAt ← Json.optional? ms "finalizedAt" Json.int64?
  let expiry ← Json.optional? ms "exp" Json.int64?
  let targetSpaceId ← Json.optional? ms "targetSpaceId" Json.text?
  let targetTable ← Json.optional? ms "targetTable" Json.text?
  let targetConnector ← Json.optional? ms "targetConnector" Json.text?
  let status ← Json.defaulted? ms "status" (Json.word? .nullOrEmpty) Status.waiting
  let errorType ← Json.optional? ms "errorType" (Json.word? .nullOrEmpty)
  let errorDescription ← Json.optional? ms "errorDescription" (Json.word? .nullOrEmpty)
  let csvFormat ← Json.optional? ms "csvFormat" (Json.word? .nullOrEmpty)
  let strategy ← Json.optional? ms "strategy" (Json.word? .nullOrEmpty)
  let spaceVersion ← Json.optional? ms "spaceVersion" Json.int64?
  let author ← Json.optional? ms "author" Json.text?
  pure
    { id := id, description, createdAt, updatedAt, executedAt, finalizedAt, expiry,
      targetSpaceId, targetTable, targetConnector, status, errorType, errorDescription,
      csvFormat, strategy, spaceVersion, author }

/-- An upload in JSON. -/
def Upload.toJson (u : Upload) : Json :=
  .object <|
    [("filename", .text u.filename), ("s3Key", .text u.key), ("bucket", .text u.bucket),
      ("region", .text u.region)] ++
    Json.optionalMember "filesize" (fun n => .integer n.toNat) u.filesize ++
    [("valid", .bool u.valid), ("status", Json.ofWord u.status)] ++
    Json.optionalMember "details" .text u.details

/-- The fields of an upload in the order in which a list gives them. -/
def Upload.fields : List String :=
  ["filename", "s3Key", "bucket", "region", "filesize", "valid", "status", "details"]

/-- An upload from an object, or from the list of its fields, the last four of which may be cut
off. -/
def Upload.ofJson? (payload : Json.Payload) (j : Json) : Option Upload := do
  let ms ← j.record? Upload.fields 4
  let filename ← Json.required? ms "filename" Json.text?
  let key ← Json.required? ms "s3Key" Json.text?
  let bucket ← Json.required? ms "bucket" Json.text?
  let region ← Json.required? ms "region" Json.text?
  let filesize ← Json.optional? ms "filesize" Json.uint64?
  let valid ← Json.defaulted? ms "valid" Json.bool? false
  let status ← Json.defaulted? ms "status" (Json.word? payload) Upload.Status.waiting
  let details ← Json.optional? ms "details" Json.text?
  return { filename := filename, key, bucket, region, filesize, valid, status, details }

/-- The uploads of an import in JSON. -/
def uploadsToJson (uploads : Dictionary Upload) : Json :=
  .object (uploads.entries.map fun (key, u) => (key, u.toJson))

/-- The uploads of an import; a key that is written twice counts the last time. -/
def uploadsOfJson? (payload : Json.Payload) (j : Json) : Option (Dictionary Upload) := do
  let ms ← j.members?
  let entries ← ms.mapM fun (key, u) => (Upload.ofJson? payload u).map fun u => (key, u)
  return Dictionary.ofList entries

/-- The members of an import. -/
def ImportJob.members (job : ImportJob) : List (String × Json) :=
  job.toEnvelope.members ++
  [("enabledUUID", .bool job.enabledUuid), ("idxList", .list (job.indexEntries.map .text)),
    ("importObjects", uploadsToJson job.uploads)]

/-- The import among the members of an object. -/
def ImportJob.ofMembers? (payload : Json.Payload) (ms : List (String × Json)) :
    Option ImportJob := do
  let envelope ← Envelope.ofMembers? ms
  let enabledUuid ← Json.defaulted? ms "enabledUUID" Json.bool? false
  let indexEntries ← Json.defaulted? ms "idxList" (Json.listOf? Json.text?) []
  let uploads ← Json.defaulted? ms "importObjects" (uploadsOfJson? payload) Dictionary.empty
  return { envelope with enabledUuid, indexEntries, uploads }

/-- An import in JSON, where nothing but an import can stand. -/
def ImportJob.toJson (job : ImportJob) : Json := .object job.members

/-- An import, where nothing but an import can stand: `type` means nothing there. -/
def ImportJob.ofJson? (j : Json) : Option ImportJob := do
  let ms ← j.members?
  ImportJob.ofMembers? .nullOnly ms

/-- A job in JSON. -/
def Job.toJson (job : Job) : Json :=
  let kind := ("type", .text job.kind.name)
  match job with
  | .importing i => .object (kind :: i.members)
  | .exporting e => .object (kind :: e.members)

/-- A job from its object; `type` tells what it is for. -/
def Job.ofJson? (j : Json) : Option Job := do
  let ms ← j.members?
  let kind ← Json.required? ms "type" fun j => j.text?.bind Vocabulary.ofWord?
  match kind with
  | Job.Kind.importing => (ImportJob.ofMembers? .nullOrEmpty ms).map .importing
  | Job.Kind.exporting => (Envelope.ofMembers? ms).map .exporting

end BulkImport
