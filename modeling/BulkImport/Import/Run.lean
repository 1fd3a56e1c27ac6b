import BulkImport.Import.Phases

/-!
# Running an import

The four phases follow one another, each between two statuses that are recorded as they are
reached.  When a phase fails after the table was claimed and before its facade would be taken down
anyway, the facade is taken down then.  A job that cannot be recorded runs on.
-/

namespace BulkImport.Import

open BulkImport.Job BulkImport.Sql BulkImport.Table

/-- A phase of an import. -/
inductive Phase where
  | validate
  | prepare
  | execute
  | finalize
deriving DecidableEq

namespace Phase

/-- The status of a job in the phase. -/
def running : Phase → Status
  | validate => .validating
  | prepare => .preparing
  | execute => .executing
  | finalize => .finalizing

/-- The status of a job after the phase. -/
def done : Phase → Status
  | validate => .validated
  | prepare => .prepared
  | execute => .executed
  | finalize => .finalized

/-- The stage that the phase is. -/
def stage : Phase → Stage
  | validate => .validation
  | prepare => .preparation
  | execute => .execution
  | finalize => .finalization

/-- Whether a facade may stand when the phase fails, with nothing left to take it down. -/
def mayLeaveFacade : Phase → Bool
  | prepare | execute => true
  | _ => false

/-- The phases of an import, in order. -/
def all : List Phase := [validate, prepare, execute, finalize]

end Phase

namespace Importer

/-- The work of a phase. -/
def work (im : Importer) : Phase → ImportJob → Action Outcome
  | .validate => im.validate
  | .prepare => im.prepare
  | .execute => im.execute
  | .finalize => im.finalize

/-- Move a job on during a phase, and keep it. -/
def transition (p : Phase) (next : Status) (job : ImportJob) : Action Outcome :=
  match job.advance next with
  | .error e => pure (job, .error (.unexpected p.stage e.message))
  | .ok job => do
    record job
    return (job, .ok ())

/-- End a job with a failure, and keep it. -/
def fail (job : ImportJob) (f : Failure) : Action ImportJob := do
  let job := job.failWith f
  record job
  return job

/-- Take the facade down as far as it can be done. -/
def releaseFacade (im : Importer) (job : ImportJob) : Action Unit := do
  match ← (target .finalization job).run with
  | .error _ => return ()
  | .ok (connector, table) =>
    let _ ← im.tearDown connector table
    return ()

/-- Whether the facade has to be taken down after a failure in a phase. -/
def mustRelease (p : Phase) (job : ImportJob) (f : Failure) : Bool :=
  p.mayLeaveFacade && job.spaceVersion == some freshVersion && !f.isPrecondition

/-- The job with the time at which a phase ended, where that is kept. -/
def stampEnd (p : Phase) (job : ImportJob) : Action ImportJob :=
  match p with
  | .execute => do return { job with executedAt := some (← now) }
  | .finalize => do return { job with finalizedAt := some (← now) }
  | _ => pure job

/-- Carry out these phases, one after the other, until one fails. -/
def runPhases (im : Importer) : List Phase → ImportJob → Action ImportJob
  | [], job => pure job
  | p :: ps, job => do
    let (job, entered) ← transition p p.running job
    match entered with
    | .error f => fail job f
    | .ok _ =>
      let (job, result) ← im.work p job
      match result with
      | .error f =>
        if mustRelease p job f then im.releaseFacade job
        fail job f
      | .ok _ =>
        let job ← stampEnd p job
        let (job, left) ← transition p p.done job
        match left with
        | .error f => fail job f
        | .ok _ => im.runPhases ps job

/-- Run a job to its end.  A job that has ended is left alone. -/
def run (im : Importer) (job : ImportJob) : Action ImportJob :=
  if job.status.isFinal then pure job else im.runPhases Phase.all job

end Importer

end BulkImport.Import
