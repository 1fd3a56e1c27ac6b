import BulkImport.Job.Record
import BulkImport.Program

/-!
# Sessions

What an import asks of its surroundings: connections, calls to a database, a look into object
storage, keeping a job, and the time.  An import is a program over these questions, and whatever is
said of it holds for every way of answering them.
-/

namespace BulkImport.Import

open BulkImport.Job BulkImport.Sql

/-- A question of an import. -/
inductive Question where
  /-- Find the client of a connector. -/
  | connect (connector : String)
  /-- Carry out a statement. -/
  | execute (connector : String) (statement : Statement)
  /-- Carry out statements that are all started before the first of them is waited for. -/
  | executeAll (connector : String) (statements : List Statement)
  /-- Ask for one whole number. -/
  | fetchInteger (connector : String) (statement : Statement)
  /-- Ask for the first column of every row. -/
  | fetchTexts (connector : String) (statement : Statement)
  /-- Look for an object in storage. -/
  | inspect (bucket key : String)
  /-- Keep a job as it is now. -/
  | record (job : ImportJob)
  /-- Tell the time, in seconds. -/
  | now

/-- A result for each of these statements. -/
abbrev Results : List Statement → Type
  | [] => Unit
  | _ :: rest => Except Database.Error Unit × Results rest

/-- The answer to a question.  An object in storage has a size or is missing, and either look-up
may fail; whether a job could be kept is all that is told of it. -/
abbrev Answer : Question → Type
  | .connect _ => Except Database.Error Unit
  | .execute _ _ => Except Database.Error Unit
  | .executeAll _ statements => Results statements
  | .fetchInteger _ _ => Except Database.Error Int64
  | .fetchTexts _ _ => Except Database.Error (List String)
  | .inspect _ _ => Except Unit (Option UInt64)
  | .record _ => Bool
  | .now => Int64

/-- Something an import does. -/
abbrev Action := Program Question Answer

/-- Something an import does that may end it. -/
abbrev Attempt := ExceptT Failure Action

/-- A database error during a stage ends the import. -/
def Attempt.database {α : Type} (stage : Stage) (call : Action (Except Database.Error α)) :
    Attempt α :=
  ExceptT.mk (call >>= fun r => pure (r.mapError (Failure.ofDatabase stage)))

/-- A statement that cannot be built during a stage ends the import. -/
def Attempt.build {α : Type} (stage : Stage) (r : Except BuildError α) : Attempt α :=
  ExceptT.mk (pure (r.mapError (Failure.ofBuild stage)))

/-- Find the client of a connector. -/
def connect (connector : String) : Action (Except Database.Error Unit) :=
  Program.query (Question.connect connector)

/-- Carry out a statement. -/
def execute (connector : String) (s : Statement) : Action (Except Database.Error Unit) :=
  Program.query (Question.execute connector s)

/-- Carry out statements together. -/
def executeAll (connector : String) (ss : List Statement) : Action (Results ss) :=
  Program.query (Question.executeAll connector ss)

/-- Ask for one whole number. -/
def fetchInteger (connector : String) (s : Statement) :
    Action (Except Database.Error Int64) :=
  Program.query (Question.fetchInteger connector s)

/-- Ask for the first column of every row. -/
def fetchTexts (connector : String) (s : Statement) :
    Action (Except Database.Error (List String)) :=
  Program.query (Question.fetchTexts connector s)

/-- Ask for the first column of the first row. -/
def fetchText (connector : String) (s : Statement) : Action (Except Database.Error String) :=
  fetchTexts connector s >>= fun r => pure (r.bind (Database.firstText s.text))

/-- Look for an object in storage. -/
def inspect (bucket key : String) : Action (Except Unit (Option UInt64)) :=
  Program.query (Question.inspect bucket key)

/-- Keep a job as it is now, if that can be done. -/
def record (job : ImportJob) : Action Unit :=
  (Program.query (Question.record job) : Action Bool) >>= fun _ => pure ()

/-- Tell the time. -/
def now : Action Int64 := Program.query Question.now

end BulkImport.Import
