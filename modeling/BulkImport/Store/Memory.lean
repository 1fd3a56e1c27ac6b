import BulkImport.Store.Repository

/-!
# Jobs in memory

A store that is a dictionary from names to jobs.  Listings are by time of creation and then by
name.  Main statements: what each operation does to the job found under a name
(`find?_insertNew`, `find?_replace`), a new job is refused exactly when its name is taken
(`insertNew_eq_error_iff`), and a listing gives the stored jobs that are asked for (`mem_list`).
-/

namespace BulkImport.Store

/-- The stored jobs by name. -/
abbrev Memory := Dictionary Job

namespace Memory

/-- Jobs by time of creation; those of one time stay in the order they have. -/
def byCreation (jobs : List Job) : List Job :=
  jobs.mergeSort fun a b => decide (a.envelope.createdAt ≤ b.envelope.createdAt)

/-- The jobs that a filter admits, by time of creation and then by name. -/
def list (m : Memory) (f : Job.Filter) : List Job :=
  byCreation (m.values.filter f.admits)

/-- The names of the imports into a space that are on their way, by time of creation and then by
name. -/
def runningImports (m : Memory) (space : String) : List String :=
  (byCreation (m.values.filter fun job =>
    job.isRunningImport && job.envelope.targetSpaceId == some space)).map (·.id)

/-- The store with a new job, unless its name is taken. -/
def insertNew (m : Memory) (job : Job) : Except Error Memory :=
  match m.find? job.id with
  | some _ => .error (.conflict job.id)
  | none => .ok (m.insert job.id job)

/-- The store with a job, in place of the one of its name. -/
def replace (m : Memory) (job : Job) : Memory := m.insert job.id job

/-- What the store answers to the questions that are put to it, and the store afterwards.  The
statistics, the time and a fresh name come from elsewhere. -/
def answer (countFeatures : String → Except Error (Option Int64)) (now : Int64)
    (freshId : String) : (q : Question) → Memory → Answer q × Memory
  | .find id, m => (.ok (m.find? id), m)
  | .list f, m => (.ok (m.list f), m)
  | .runningImports space, m => (.ok (m.runningImports space), m)
  | .insert job, m =>
    match m.insertNew job with
    | .ok m' => (.ok (), m')
    | .error e => (.error e, m)
  | .replace job, m => (.ok (), m.replace job)
  | .remove id, m => (.ok (m.find? id), m.erase id)
  | .countFeatures space, m => (countFeatures space, m)
  | .now, m => (now, m)
  | .freshId, m => (freshId, m)

theorem find?_insertNew {m m' : Memory} {job : Job} (h : m.insertNew job = .ok m') (id : String) :
    m'.find? id = if id = job.id then some job else m.find? id := by
  unfold insertNew at h
  split at h
  · cases h
  · cases h; exact Dictionary.find?_insert m job.id id job

theorem insertNew_eq_error_iff {m : Memory} {job : Job} {e : Error} :
    m.insertNew job = .error e ↔ (m.find? job.id).isSome ∧ e = .conflict job.id := by
  unfold insertNew
  cases h : m.find? job.id with
  | none => simp
  | some j => simp [eq_comm]

theorem find?_replace (m : Memory) (job : Job) (id : String) :
    (m.replace job).find? id = if id = job.id then some job else m.find? id :=
  Dictionary.find?_insert m job.id id job

theorem mem_list {m : Memory} {f : Job.Filter} {job : Job} :
    job ∈ m.list f ↔ (∃ id, m.find? id = some job) ∧ f.admits job = true := by
  unfold list byCreation
  rw [List.mem_mergeSort, List.mem_filter, Dictionary.mem_values_iff]

end Memory

end BulkImport.Store
