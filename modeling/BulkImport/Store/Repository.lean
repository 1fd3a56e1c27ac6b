import BulkImport.Job.Record
import BulkImport.Program

/-!
# The job repository

What happens to stored jobs.  A new job is refused when its target space holds features already;
otherwise it is given a name and times where it has none, and stored unless its name is taken.  A
changed job replaces the one that was stored, with the time of the change.
-/

namespace BulkImport.Store

/-- Why the repository refuses. -/
inductive Error where
  /-- The target of the job does not admit it. -/
  | preconditionFailed (message : String)
  /-- A job of this name is stored. -/
  | conflict (id : String)
  /-- The features of a space could not be counted. -/
  | statistics (message : String)
  /-- The database of the jobs does not answer. -/
  | database (fault : Database.Fault)
deriving DecidableEq

/-- What is reported for a refusal. -/
def Error.message : Error → String
  | .preconditionFailed m => "Precondition failed: " ++ m
  | .conflict id => "Job '" ++ id ++ "' already exists"
  | .statistics m => "Statistics request failed: " ++ m
  | .database f => "Job store query failed: " ++ f.message

/-- A question of the repository: to the store of the jobs, to the statistics of the spaces, for the
time and for a name that is not in use. -/
inductive Question where
  | find (id : String)
  | list (filter : Job.Filter)
  | runningImports (space : String)
  /-- Store a job that is new. -/
  | insert (job : Job)
  /-- Store a job in place of the one of its name. -/
  | replace (job : Job)
  | remove (id : String)
  | countFeatures (space : String)
  | now
  | freshId

/-- The answer to a question of the repository. -/
abbrev Answer : Question → Type
  | .find _ => Except Error (Option Job)
  | .list _ => Except Error (List Job)
  | .runningImports _ => Except Error (List String)
  | .insert _ => Except Error Unit
  | .replace _ => Except Error Unit
  | .remove _ => Except Error (Option Job)
  | .countFeatures _ => Except Error (Option Int64)
  | .now => Int64
  | .freshId => String

/-- Something the repository does. -/
abbrev Action := Program Question Answer

/-- Something the repository does, or refuses to do. -/
abbrev Attempt := ExceptT Error Action

/-- The job of a name. -/
def find (id : String) : Attempt (Option Job) := ExceptT.mk (Program.query (Question.find id))

/-- The jobs that a filter admits. -/
def list (filter : Job.Filter) : Attempt (List Job) :=
  ExceptT.mk (Program.query (Question.list filter))

/-- The names of the imports into a space that are on their way. -/
def runningImports (space : String) : Attempt (List String) :=
  ExceptT.mk (Program.query (Question.runningImports space))

/-- Take a job out; nothing happens when there is none of the name. -/
def delete (id : String) : Attempt (Option Job) :=
  ExceptT.mk (Program.query (Question.remove id))

/-- The envelope of a job that comes new into the repository. -/
def stampNew (now : Int64) (freshId : String) (e : Envelope) : Envelope :=
  { e with
    id := if e.id = "" then freshId else e.id
    createdAt := if e.createdAt = defaultTimestamp then now else e.createdAt
    updatedAt := if e.updatedAt = defaultTimestamp then now else e.updatedAt }

/-- The target space of a job is empty, as far as anything is known of it. -/
def checkSpace (job : Job) : Attempt Unit := do
  match job.envelope.targetSpaceId with
  | none => return ()
  | some space =>
    let count ← ExceptT.mk (Program.query (Question.countFeatures space))
    match count with
    | none => return ()
    | some n => if n = 0 then return () else throw (.preconditionFailed "Layer is not empty!")

/-- A name that is not in use, for a job that has none. -/
def nameFor (job : Job) : Action String :=
  if job.id = "" then Program.query Question.freshId else pure job.id

/-- Store a new job; gives it as it is stored. -/
def store (job : Job) : Attempt Job := do
  checkSpace job
  let now ← ExceptT.lift (Program.query Question.now : Action Int64)
  let name ← ExceptT.lift (nameFor job)
  let job := job.withEnvelope (stampNew now name job.envelope)
  ExceptT.mk (Program.query (Question.insert job) : Action (Except Error Unit))
  return job

/-- Store a changed job; gives it as it is stored. -/
def update (job : Job) : Attempt Job := do
  let now ← ExceptT.lift (Program.query Question.now : Action Int64)
  let job := job.withEnvelope { job.envelope with updatedAt := now }
  ExceptT.mk (Program.query (Question.replace job) : Action (Except Error Unit))
  return job

/-- Store an import whose status has changed. -/
def record (job : ImportJob) : Attempt Unit := do
  let _ ← update (.importing job)
  return ()

end BulkImport.Store
