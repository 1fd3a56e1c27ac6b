import BulkImport.Store.Repository

/-!
# Scheduling imports

A scheduler looks again and again for imports that can run.  In each cycle it takes up imports that
are queued or waiting, in that order, as long as it has permits to give; it never lets two imports
fill one table at a time, and it leaves a connector alone that is busy with other statements.  How
busy a connector is, is found out once a cycle.
-/

namespace BulkImport.Scheduler

open BulkImport.Job

/-- What an import fills: a table behind a connector. -/
structure Target where
  connector : String
  table : String
deriving DecidableEq

/-- The target of an import that has one. -/
def Target.ofJob? (job : ImportJob) : Option Target := do
  let connector ← job.targetConnector
  let table ← job.targetTable
  return ⟨connector, table⟩

/-- A question of the scheduler. -/
inductive Question where
  /-- List the imports in a status. -/
  | list (status : Status)
  /-- Tell whether a target is taken. -/
  | isTaken (target : Target)
  /-- Count the statements that run on a connector. -/
  | countQueries (connector : String)
  /-- Take a permit, if there is one. -/
  | takePermit
  /-- Give a permit back. -/
  | returnPermit
  /-- Take a target, unless it is taken. -/
  | claim (target : Target)
  /-- Let a target go. -/
  | release (target : Target)
  /-- Store an import that was queued. -/
  | store (job : ImportJob)
  /-- Let an import run by itself, with a permit and its target. -/
  | spawn (job : ImportJob) (target : Target)

/-- The answer to a question of the scheduler. -/
abbrev Answer : Question → Type
  | .list _ => Except Store.Error (List Job)
  | .isTaken _ => Bool
  | .countQueries _ => Except Database.Error Nat
  | .takePermit => Bool
  | .returnPermit => Unit
  | .claim _ => Bool
  | .release _ => Unit
  | .store _ => Except Store.Error ImportJob
  | .spawn _ _ => Unit

/-- Something the scheduler does. -/
abbrev Action := Program Question Answer

/-- Ask a question. -/
def ask (q : Question) : Action (Answer q) := Program.query q

/-- Whether a connector runs as many statements as are allowed.  One that cannot be asked is not
busy, and where no number is allowed nobody is asked. -/
def isBusy (maxQueries : Nat) (connector : String) : Action Bool :=
  if maxQueries = 0 then pure false
  else do
    match ← ask (.countQueries connector) with
    | .ok running => return decide (maxQueries ≤ running)
    | .error _ => return false

/-- Whether a connector is busy, and what is known of connectors then. -/
def lookUpBusy (maxQueries : Nat) (known : List (String × Bool)) (connector : String) :
    Action (Bool × List (String × Bool)) :=
  match known.lookup connector with
  | some busy => pure (busy, known)
  | none => do
    let busy ← isBusy maxQueries connector
    return (busy, (connector, busy) :: known)

/-- The import in the status in which it can be spawned: queued, and stored as such where it was
waiting. -/
def enqueue (job : ImportJob) : Action (Option ImportJob) :=
  if job.status = .waiting then
    match job.advance .queued with
    | .error _ => pure none
    | .ok queued => do
      match ← ask (.store queued) with
      | .ok stored => return some stored
      | .error _ => return none
  else pure (some job)

/-- What becomes of a candidate. -/
inductive Verdict where
  /-- It runs. -/
  | dispatched
  /-- It has to wait. -/
  | deferred
  /-- There are no permits left, for it and for those after it. -/
  | exhausted
deriving DecidableEq

/-- Let one candidate run, if it can. -/
def consider (maxQueries : Nat) (known : List (String × Bool)) (job : ImportJob) :
    Action (Verdict × List (String × Bool)) :=
  match Target.ofJob? job with
  | none => pure (.deferred, known)
  | some target => do
    if ← ask (.isTaken target) then return (.deferred, known)
    else
      let (busy, known) ← lookUpBusy maxQueries known target.connector
      if busy then return (.deferred, known)
      else if !(← ask .takePermit) then return (.exhausted, known)
      else if !(← ask (.claim target)) then
        ask .returnPermit
        return (.deferred, known)
      else
        match ← enqueue job with
        | none =>
          ask (.release target)
          ask .returnPermit
          return (.deferred, known)
        | some queued =>
          ask (.spawn queued target)
          return (.dispatched, known)

/-- Let candidates run, one after the other; gives how many of them do. -/
def dispatch (maxQueries : Nat) : List (String × Bool) → List ImportJob → Action Nat
  | _, [] => pure 0
  | known, job :: jobs => do
    let (verdict, known) ← consider maxQueries known job
    match verdict with
    | .exhausted => return 0
    | .deferred => dispatch maxQueries known jobs
    | .dispatched =>
      let more ← dispatch maxQueries known jobs
      return more + 1

/-- One cycle: the queued imports and then the waiting ones; gives how many of them now run. -/
def cycle (maxQueries : Nat) : Action (Except Store.Error Nat) := do
  match ← ask (.list .queued) with
  | .error e => return .error e
  | .ok queued =>
    match ← ask (.list .waiting) with
    | .error e => return .error e
    | .ok waiting =>
      let n ← dispatch maxQueries [] ((queued ++ waiting).filterMap Job.import?)
      return .ok n

end BulkImport.Scheduler
