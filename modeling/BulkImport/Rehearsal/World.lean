import BulkImport.Import.Run
import BulkImport.Rehearsal.Database
import BulkImport.Scheduler.State
import BulkImport.Store.Memory

/-!
# The world of a rehearsal

Everything that an import, the repository and the scheduler can ask: scripted databases, object
storage, jobs in memory that may be made to refuse, the statistics of the spaces, and a clock that
stands still.  Each kind of question is answered from this one state.  A call to a database whose
script says so lets the other imports go on before it returns.
-/

namespace BulkImport.Rehearsal

open BulkImport.Job BulkImport.Sql

/-- Which calls to the store of the jobs fail.  A star stands for every name, and for listings that
ask for no status. -/
structure Outage where
  find : List String := []
  insert : List String := []
  replace : List String := []
  remove : List String := []
  list : List String := []

/-- Everything that can be asked. -/
structure World where
  databases : List (String × Database) := []
  /-- The calls to the databases since the log was cleared, the last one first. -/
  log : List Call := []
  /-- What is found under a bucket and a key. -/
  objects : List (String × Except Unit (Option UInt64)) := []
  /-- The statuses that jobs were recorded in since the record was cleared, the last one first. -/
  recorded : List Status := []
  /-- Whether recording a job fails. -/
  recordFails : Bool := false
  memory : Store.Memory := Dictionary.empty
  statistics : Except Store.Error (Option Int64) := .ok none
  outage : Outage := {}
  /-- How many jobs were given a name. -/
  named : Nat := 0
  clock : Int64
  scheduler : Scheduler.State := { permits := 0 }
  /-- How the imports ended that have ended and that nobody waited for yet, each with its place
  among all that were spawned. -/
  ended : List (Nat × Status) := []

namespace World

/-- The world with nothing in its log and nothing recorded. -/
def clearLog (w : World) : World := { w with log := [], recorded := [] }

/-- The world with a database in place of the one behind a connector. -/
def setDatabase (w : World) (connector : String) (db : Database) : World :=
  { w with databases := w.databases.map fun (c, old) => (c, if c = connector then db else old) }

/-- The world with a call in its log. -/
def logCall (w : World) (connector : String) (method : Method) (s : Statement) : World :=
  { w with log := ⟨connector, method, s⟩ :: w.log }

/-- A call to the database behind a connector. -/
def call {α : Type} (w : World) (connector : String) (method : Method) (s : Statement)
    (answer : Database → α × Database) : Except BulkImport.Database.Error α × World :=
  let w := w.logCall connector method s
  match w.databases.lookup connector with
  | none => (.error (.unknownConnector connector), w)
  | some db =>
    let (r, db) := db.call s answer
    (r, w.setDatabase connector db)

/-- The world after so many calls to a database were started together. -/
def notePeak (w : World) (connector : String) (calls : Nat) : World :=
  match w.databases.lookup connector with
  | none => w
  | some db => w.setDatabase connector (db.notePeak calls)

/-- Carry out statements, one after the other. -/
def executeEach (connector : String) : (ss : List Statement) → World →
    Import.Results ss × World
  | [], w => ((), w)
  | s :: ss, w =>
    let (r, w) := w.call connector .execute s fun db => ((), db)
    let (rs, w) := executeEach connector ss w
    ((r, rs), w)

/-- What the world answers to an import; `keep` tells what becomes of a job that is to be kept. -/
def answerImport (keep : ImportJob → World → Bool × World) :
    (q : Import.Question) → World → Import.Answer q × World
  | .connect connector, w =>
    match w.databases.lookup connector with
    | none => (.error (.unknownConnector connector), w)
    | some _ => (.ok (), w)
  | .execute connector s, w =>
    w.notePeak connector 1 |>.call connector .execute s fun db => ((), db)
  | .executeAll connector ss, w => executeEach connector ss (w.notePeak connector ss.length)
  | .fetchInteger connector s, w =>
    w.notePeak connector 1 |>.call connector .fetchInteger s fun db => integerAnswer db s
  | .fetchTexts connector s, w =>
    w.notePeak connector 1 |>.call connector .fetchTexts s fun db => (textsAnswer db.script s, db)
  | .inspect bucket key, w =>
    ((w.objects.lookup (bucket ++ "/" ++ key)).getD (.ok none), w)
  | .record job, w => keep job w
  | .now, w => (w.clock, w)

/-- Keep only the status of a job. -/
def keepStatus (job : ImportJob) (w : World) : Bool × World :=
  (!w.recordFails, { w with recorded := job.status :: w.recorded })

/-- Whether the store refuses a call for a name. -/
def refuses (names : List String) (name : String) : Bool := "*" ∈ names || name ∈ names

/-- The name that is given to the job that is named next. -/
def freshName (w : World) : String := "<generated:" ++ toString w.named ++ ">"

/-- What a store says that refuses. -/
def storeDown : Store.Error := .preconditionFailed "store down"

/-- Whether the store refuses a question. -/
def isDown (o : Outage) : Store.Question → Bool
  | .find name => refuses o.find name
  | .list f =>
    match f.status with
    | some s => refuses o.list s.name
    | none => refuses o.list "*"
  | .insert job => refuses o.insert job.id
  | .replace job => refuses o.replace job.id
  | .remove name => refuses o.remove name
  | _ => false

/-- The answer of a store that refuses a question; the other questions are not refused. -/
def downAnswer (w : World) : (q : Store.Question) → Store.Answer q
  | .find _ => .error storeDown
  | .list _ => .error storeDown
  | .runningImports _ => .error storeDown
  | .insert _ => .error storeDown
  | .replace _ => .error storeDown
  | .remove _ => .error storeDown
  | .countFeatures _ => .error storeDown
  | .now => w.clock
  | .freshId => w.freshName

/-- What the world answers to the repository. -/
def answerStore (q : Store.Question) (w : World) : Store.Answer q × World :=
  if isDown w.outage q then (downAnswer w q, w)
  else
    let (a, memory) := Store.Memory.answer (fun _ => w.statistics) w.clock w.freshName q w.memory
    (a, { w with memory := memory })

/-- Do something with the repository. -/
def withStore {α : Type} (p : Store.Attempt α) (w : World) : Except Store.Error α × World :=
  Program.runWith answerStore p.run w

/-- Store a new job.  A name that was given to it is used up. -/
def store (job : Job) (w : World) : Except Store.Error Job × World :=
  match w.withStore (Store.store job) with
  | (.ok stored, w') =>
    (.ok stored, if job.id = "" then { w' with named := w.named + 1 } else w')
  | r => r

/-- Keep a job in the repository. -/
def keepJob (job : ImportJob) (w : World) : Bool × World :=
  match w.withStore (Store.record job) with
  | (.ok _, w) => (true, w)
  | (.error _, w) => (false, w)

/-- What the sessions of a connector call themselves. -/
def sessionName (connector : String) : String := "app:" ++ connector

/-- Whether a call to a connector lets others go on before it returns. -/
def pausesAt (w : World) (connector : String) : Bool :=
  match w.databases.lookup connector with
  | some db => db.script.parallel
  | none => false

/-- Whether an import lets others go on before it is given an answer. -/
def pauses (w : World) : Import.Question → Bool
  | .execute connector _ | .fetchInteger connector _ | .fetchTexts connector _ =>
    w.pausesAt connector
  | .executeAll connector ss => !ss.isEmpty && w.pausesAt connector
  | _ => false

/-- Let an import go on until it pauses or has come to its end. -/
def proceed : Import.Action ImportJob → World → Import.Action ImportJob × World
  | .done job, w => (.done job, w)
  | .ask q next, w =>
    let pausing := w.pauses q
    let (a, w) := answerImport keepJob q w
    if pausing then (next a, w) else proceed (next a) w

/-- The world after a run has ended. -/
def noteEnd (r : Scheduler.Run) (job : ImportJob) (w : World) : World :=
  { w with scheduler := w.scheduler.finish r, ended := w.ended ++ [(r.number, job.status)] }

/-- Let runs go on, one after the other, each until it pauses; gives those that have not ended. -/
def proceedEach : List Scheduler.Run → World → List Scheduler.Run × World
  | [], w => ([], w)
  | r :: rs, w =>
    match proceed r.rest w with
    | (.done job, w) => proceedEach rs (w.noteEnd r job)
    | (rest, w) =>
      let (rs, w) := proceedEach rs w
      ({ r with rest := rest } :: rs, w)

/-- Let every run go on until it pauses. -/
def goOn (w : World) : World :=
  let (runs, w) := proceedEach w.scheduler.runs w
  { w with scheduler := { w.scheduler with runs := runs } }

/-- Let a run with this left to do come to its end, while others go on whenever it pauses; gives
those of them that have not ended. -/
def settle (r : Scheduler.Run) : Import.Action ImportJob → List Scheduler.Run → World →
    List Scheduler.Run × World
  | .done job, others, w => (others, w.noteEnd r job)
  | .ask q next, others, w =>
    let pausing := w.pauses q
    let (a, w) := answerImport keepJob q w
    if pausing then
      let (others, w) := proceedEach others w
      settle r (next a) others w
    else settle r (next a) others w

/-- Let runs, so many at most, come to their ends. -/
def settleAll : Nat → List Scheduler.Run → World → World
  | n + 1, r :: rs, w =>
    let (rs, w) := settle r r.rest rs w
    settleAll n rs w
  | _, _, w => w

/-- Let every run come to its end. -/
def finishAll (w : World) : World :=
  let runs := w.scheduler.runs
  settleAll runs.length runs { w with scheduler := { w.scheduler with runs := [] } }

/-- What the world answers to the scheduler.  Spawned imports go on while the scheduler waits for
a connector. -/
def answerScheduler (im : Import.Importer) :
    (q : Scheduler.Question) → World → Scheduler.Answer q × World
  | .list status, w =>
    w.withStore (Store.list { kind := some .importing, status := some status })
  | .isTaken t, w => (decide (t ∈ w.scheduler.taken), w)
  | .countQueries connector, w =>
    let pausing := w.pausesAt connector
    let (r, w) :=
      Program.runWith (answerImport keepJob) (Import.runningQueries sessionName connector) w
    (r, if pausing then w.goOn else w)
  | .takePermit, w =>
    let (b, s) := w.scheduler.takePermit
    (b, { w with scheduler := s })
  | .returnPermit, w => ((), { w with scheduler := w.scheduler.returnPermit })
  | .claim t, w =>
    let (b, s) := w.scheduler.claim t
    (b, { w with scheduler := s })
  | .release t, w => ((), { w with scheduler := w.scheduler.release t })
  | .store job, w =>
    match w.withStore (Store.update (.importing job)) with
    | (.ok stored, w) => (.ok (stored.import?.getD job), w)
    | (.error e, w) => (.error e, w)
  | .spawn job t, w => ((), { w with scheduler := w.scheduler.spawn im job t })

/-- One cycle of the scheduler. -/
def cycle (im : Import.Importer) (maxQueries : Nat) (w : World) : Except Store.Error Nat × World :=
  Program.runWith (answerScheduler im) (Scheduler.cycle maxQueries) w

/-- Wait for every spawned import; gives how each one ended, in the order they were spawned. -/
def join (w : World) : List Status × World :=
  let w := w.finishAll
  let ended := w.ended.mergeSort fun a b => decide (a.1 ≤ b.1)
  (ended.map (·.2), { w with ended := [] })

/-- Start a scheduler that is told to stop at once: it does one cycle, and the imports of that cycle
run to their ends, of which nobody hears.  Imports that were spawned before come first. -/
def start (im : Import.Importer) (maxQueries : Nat) (w : World) : World :=
  let earlier := w.scheduler.spawned
  let (_, w) := w.goOn.cycle im maxQueries
  let w := w.finishAll
  { w with ended := w.ended.filter fun e => decide (e.1 < earlier) }

end World

end BulkImport.Rehearsal
