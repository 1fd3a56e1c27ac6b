import BulkImport.Rehearsal.World

/-!
# Trials

Single things tried out in a rehearsal: something done with a job, which keeps what became of it
for the next step, or something done to a table behind a connector.
-/

namespace BulkImport.Rehearsal

open BulkImport.Sql BulkImport.Import

/-- Why something cannot be tried at all. -/
inductive Refusal where
  | database (e : BulkImport.Database.Error)
  | identifier (e : IdentifierError)
deriving DecidableEq

/-- The jobs of a rehearsal and the world around them. -/
structure Trial where
  importer : Importer
  jobs : List (String × ImportJob)
  world : World

namespace World

/-- Let an import action happen, with nothing kept of its jobs but their statuses. -/
def perform {α : Type} (w : World) (p : Import.Action α) : α × World :=
  Program.runWith (answerImport keepStatus) p w

/-- Do something to a table, once its connector and then its names are found to be good. -/
def onTable {α : Type} (w : World) (connector schema table : String)
    (p : Identifier → Identifier → Import.Action α) : Except Refusal α × World :=
  match w.databases.lookup connector, Identifier.ofText schema, Identifier.ofText table with
  | none, _, _ => (.error (.database (.unknownConnector connector)), w)
  | some _, .error e, _ => (.error (.identifier e), w)
  | some _, .ok _, .error e => (.error (.identifier e), w)
  | some _, .ok schema, .ok table =>
    let (a, w) := w.perform (p schema table)
    (.ok a, w)

end World

namespace Trial

/-- Do something with a job, and keep what becomes of it. -/
def withJob {α : Type} (t : Trial) (name : String)
    (p : Importer → ImportJob → Import.Action (ImportJob × α)) : Option (α × Trial) :=
  (t.jobs.lookup name).map fun job =>
    let ((job, a), world) := t.world.perform (p t.importer job)
    let jobs := t.jobs.map fun (n, old) => (n, if n = name then job else old)
    (a, { t with jobs := jobs, world := world })

/-- Run a job to its end; gives the status it ends in. -/
def run (t : Trial) (name : String) : Option (Job.Status × Trial) :=
  t.withJob name fun im job => do
    let job ← im.run job
    return (job, job.status)

/-- Do one phase of a job. -/
def work (t : Trial) (name : String) (p : Phase) : Option (Except Job.Failure Unit × Trial) :=
  t.withJob name fun im job => im.work p job

/-- Load the upload under a key of a job, if there is one. -/
def load (t : Trial) (name key : String) :
    Option (Option (Except Job.Failure String) × Trial) :=
  t.withJob name fun im job =>
    match job.uploads.find? key with
    | none => pure (job, none)
    | some u => do
      let result ← (im.load job u).run
      return (job, some result)

end Trial

end BulkImport.Rehearsal
