import BulkImport.Proofs.History
import BulkImport.Scheduler.State
import BulkImport.Store.Memory

/-!
# A scheduler among its imports

The cycles of a scheduler and the imports that it has spawned take turns.  A turn is one question
that is asked and answered, the beginning or the end of a cycle, or the end of an import with the
release of its target (`Step`).  The jobs are stored in memory and nobody else writes to them;
everything else that a cycle or an import asks may be answered in any way.

Cycles may overlap, so that what holds of all executions holds of those in which a cycle begins
only after the one before has ended.

Whatever is done with the stored jobs, each of them stays stored under its own name
(`Named.inMemory`).
-/

namespace BulkImport.Scheduler

open BulkImport.Job

/-- What a cycle has still to do. -/
abbrev Remainder := Action (Except Store.Error Nat)

/-- A scheduler at work on the jobs of a store. -/
structure System where
  memory : Store.Memory
  state : State
  /-- The cycles that have not ended, each with what it has still to do. -/
  cycles : List (Remainder) := []

/-- Something done with the jobs in memory, at a time. -/
def inMemory {α : Type} (now : Int64) (p : Store.Attempt α) (m : Store.Memory) :
    Except Store.Error α × Store.Memory :=
  Program.runWith (Store.Memory.answer (fun _ => .ok none) now "") p.run m

/-! ### Names -/

/-- Every job is stored under its own name. -/
def Named (m : Store.Memory) : Prop :=
  ∀ id job, m.find? id = some job → job.id = id

theorem named_empty : Named Dictionary.empty := by
  intro id job hjob
  cases hjob

namespace Named

variable {m : Store.Memory}

theorem replace (h : Named m) (job : Job) : Named (m.replace job) := by
  intro id job' hjob
  rw [Store.Memory.find?_replace] at hjob
  split at hjob
  · next hid =>
    cases hjob
    exact hid.symm
  · exact h id job' hjob

/-- Whatever is asked of the store, it keeps every job under its own name. -/
theorem answer (h : Named m) (countFeatures : String → Except Store.Error (Option Int64))
    (now : Int64) (freshId : String) (q : Store.Question) :
    Named (Store.Memory.answer countFeatures now freshId q m).2 := by
  cases q with
  | insert job =>
    cases hinsert : m.insertNew job with
    | error e =>
      simp only [Store.Memory.answer, hinsert]
      exact h
    | ok m' =>
      simp only [Store.Memory.answer, hinsert]
      intro id job' hjob
      rw [Store.Memory.find?_insertNew hinsert] at hjob
      split at hjob
      · next hid =>
        cases hjob
        exact hid.symm
      · exact h id job' hjob
  | replace job => exact h.replace job
  | remove name =>
    intro id job hjob
    rw [Store.Memory.answer, Dictionary.find?_erase] at hjob
    split at hjob
    · cases hjob
    · exact h id job hjob
  | find _ | list _ | runningImports _ | countFeatures _ | now | freshId => exact h

/-- Nothing that is done with the stored jobs gives one another name. -/
theorem runWith {α : Type} (h : Named m)
    (countFeatures : String → Except Store.Error (Option Int64)) (now : Int64) (freshId : String)
    (p : Store.Action α) :
    Named (p.runWith (Store.Memory.answer countFeatures now freshId) m).2 := by
  induction p generalizing m with
  | done r => exact h
  | ask q next ih => exact ih _ (h.answer countFeatures now freshId q)

theorem inMemory {α : Type} (h : Named m) (now : Int64) (p : Store.Attempt α) :
    Named (inMemory now p m).2 :=
  h.runWith _ now "" p.run

end Named

/-! ### What is asked -/

namespace System

/-- What a cycle is told, at a time and with this load of the connector it may ask for. -/
def answer (im : Import.Importer) (now : Int64) (load : Except Database.Error Nat) :
    (q : Question) → System → Answer q × System
  | .list status, s =>
    let filter : Job.Filter := { kind := some .importing, status := some status }
    let (r, m) := inMemory now (Store.list filter) s.memory
    (r, { s with memory := m })
  | .isTaken t, s => (decide (t ∈ s.state.taken), s)
  | .countQueries _, s => (load, s)
  | .takePermit, s =>
    let (b, state) := s.state.takePermit
    (b, { s with state := state })
  | .returnPermit, s => ((), { s with state := s.state.returnPermit })
  | .claim t, s =>
    let (b, state) := s.state.claim t
    (b, { s with state := state })
  | .release t, s => ((), { s with state := s.state.release t })
  | .store job, s =>
    let (r, m) := inMemory now (Store.update (.importing job)) s.memory
    (r.map fun stored => stored.import?.getD job, { s with memory := m })
  | .spawn job t, s => ((), { s with state := s.state.spawn im job t })

/-- The memory after a question of an import, at a time. -/
def noted (now : Int64) : Import.Question → Store.Memory → Store.Memory
  | .record job, m => (inMemory now (Store.record job) m).2
  | _, m => m

end System

/-! ### Turns -/

/-- What happens in a turn. -/
inductive Event where
  | begun
  | asked (q : Question) (answer : Answer q)
  | ended (result : Except Store.Error Nat)
  | worked (job : ImportJob) (q : Import.Question) (answer : Import.Answer q)
  | finished (job : ImportJob) (result : ImportJob)

/-- One turn. -/
inductive Step (im : Import.Importer) (maxQueries : Nat) : System → Event → System → Prop where
  | begin (s : System) :
      Step im maxQueries s .begun { s with cycles := s.cycles ++ [cycle maxQueries] }
  | ask {s : System} {before after : List (Remainder)} {q : Question}
      {next : Answer q → Remainder} (now : Int64)
      (load : Except Database.Error Nat) (hcycles : s.cycles = before ++ .ask q next :: after) :
      Step im maxQueries s (.asked q (s.answer im now load q).1)
        { (s.answer im now load q).2 with
          cycles := before ++ next (s.answer im now load q).1 :: after }
  | leave {s : System} {before after : List (Remainder)}
      {r : Except Store.Error Nat} (hcycles : s.cycles = before ++ .done r :: after) :
      Step im maxQueries s (.ended r) { s with cycles := before ++ after }
  | work {s : System} {before after : List Run} {r : Run} {q : Import.Question}
      {next : Import.Answer q → Import.Action ImportJob} (now : Int64) (a : Import.Answer q)
      (hruns : s.state.runs = before ++ r :: after) (hrest : r.rest = .ask q next) :
      Step im maxQueries s (.worked r.job q a)
        { s with
          memory := System.noted now q s.memory
          state := { s.state with runs := before ++ { r with rest := next a } :: after } }
  | finish {s : System} {before after : List Run} {r : Run} {result : ImportJob}
      (hruns : s.state.runs = before ++ r :: after) (hrest : r.rest = .done result) :
      Step im maxQueries s (.finished r.job result)
        { s with state := { s.state.finish r with runs := before ++ after } }

/-- A turn with the system before and after it. -/
structure Move where
  before : System
  event : Event
  after : System

/-- Turns that follow one another. -/
inductive Execution (im : Import.Importer) (maxQueries : Nat) :
    System → List Move → System → Prop where
  | nil (s : System) : Execution im maxQueries s [] s
  | cons {s s' s'' : System} {e : Event} {moves : List Move} (hstep : Step im maxQueries s e s')
      (hrest : Execution im maxQueries s' moves s'') :
      Execution im maxQueries s (⟨s, e, s'⟩ :: moves) s''

/-- Nothing is under way, and no target is taken. -/
structure System.AtRest (s : System) : Prop where
  cycles : s.cycles = []
  runs : s.state.runs = []
  taken : s.state.taken = []

/-- The name of the import that is handed over to be run in a turn, if one is. -/
def Event.handed? : Event → Option String
  | .asked (.spawn job _) _ => some job.id
  | _ => none

/-- The name of the import that a cycle stores or spawns in a turn, if it does so. -/
def Event.touched? : Event → Option String
  | .asked (.store job) _ => some job.id
  | .asked (.spawn job _) _ => some job.id
  | _ => none

/-- The names of the imports that are handed over to be run. -/
def handed (moves : List Move) : List String := moves.filterMap fun m => m.event.handed?

/-- Whether the status in which a job is stored under a name is final. -/
def StoredFinal (m : Store.Memory) (id : String) : Prop :=
  ∃ job, m.find? id = some job ∧ job.status.isFinal = true

instance (m : Store.Memory) (id : String) : Decidable (StoredFinal m id) :=
  decidable_of_iff ((m.find? id).any (·.status.isFinal) = true) (Option.any_eq_true _ _)

/-- What is stored in one store with a final status has the same status in the other. -/
def FinalKept (m m' : Store.Memory) : Prop :=
  ∀ id job, m.find? id = some job → job.status.isFinal = true →
    ∃ job', m'.find? id = some job' ∧ job'.status = job.status

namespace Move

/-- No stored status that is final changes in the turn. -/
def KeepsFinal (m : Move) : Prop := FinalKept m.before.memory m.after.memory

/-- No cycle stores or spawns an import in the turn whose stored status is final by then. -/
def Fresh (m : Move) : Prop :=
  match m.event.touched? with
  | some name => ¬ StoredFinal m.before.memory name
  | none => True

/-- No cycle begins in the turn while another one is under way. -/
def Successive (m : Move) : Prop :=
  match m.event with
  | .begun => m.before.cycles.isEmpty = true
  | _ => True

instance (m : Move) : Decidable m.Fresh :=
  match h : m.event.touched? with
  | some name => decidable_of_iff (¬ StoredFinal m.before.memory name) (by unfold Fresh; rw [h])
  | none => .isTrue (by unfold Fresh; rw [h]; trivial)

instance (m : Move) : Decidable m.Successive :=
  match m with
  | ⟨s, .begun, _⟩ => inferInstanceAs (Decidable (s.cycles.isEmpty = true))
  | ⟨_, .asked _ _, _⟩ | ⟨_, .ended _, _⟩ | ⟨_, .worked _ _ _, _⟩ | ⟨_, .finished _ _, _⟩ =>
    .isTrue trivial

end Move

/-! ### Carrying out a schedule -/

/-- Whose turn it is: a new cycle's, that of the cycle that began first, or that of the import that
was spawned first. -/
inductive Turn where
  | begin
  | cycle
  | run

namespace System

variable (im : Import.Importer) (maxQueries : Nat) (told : (q : Import.Question) → Import.Answer q)

/-- The turn that somebody takes, if there is anything to do. -/
def take (s : System) : Turn → Option (Event × System)
  | .begin => some (.begun, { s with cycles := s.cycles ++ [Scheduler.cycle maxQueries] })
  | .cycle =>
    match s.cycles with
    | [] => none
    | .done r :: after => some (.ended r, { s with cycles := after })
    | .ask q next :: after =>
      let (a, s') := s.answer im 0 (.ok 0) q
      some (.asked q a, { s' with cycles := next a :: after })
  | .run =>
    match s.state.runs with
    | [] => none
    | r :: after =>
      match r.rest with
      | .done result =>
        some (.finished r.job result, { s with state := { s.state.finish r with runs := after } })
      | .ask q next =>
        some (.worked r.job q (told q),
          { s with
            memory := noted 0 q s.memory
            state := { s.state with runs := { r with rest := next (told q) } :: after } })

/-- The turns of a schedule, as far as there is anything to do. -/
def perform : List Turn → System → List Move × System
  | [], s => ([], s)
  | turn :: turns, s =>
    match s.take im maxQueries told turn with
    | none => ([], s)
    | some (e, s') =>
      let (moves, last) := perform turns s'
      (⟨s, e, s'⟩ :: moves, last)

variable {im maxQueries told}

theorem step_of_take {s s' : System} {turn : Turn} {e : Event}
    (h : s.take im maxQueries told turn = some (e, s')) : Step im maxQueries s e s' := by
  cases turn with
  | begin =>
    cases h
    exact .begin s
  | cycle =>
    simp only [take] at h
    split at h
    · cases h
    · next r after hcycles =>
      cases h
      exact @Step.leave im maxQueries s [] after r hcycles
    · next q next after hcycles =>
      cases h
      exact @Step.ask im maxQueries s [] after q next 0 (.ok 0) hcycles
  | run =>
    simp only [take] at h
    split at h
    · cases h
    · next r after hruns =>
      split at h
      · next result hrest =>
        cases h
        exact @Step.finish im maxQueries s [] after r result hruns hrest
      · next q next hrest =>
        cases h
        exact @Step.work im maxQueries s [] after r q next 0 (told q) hruns hrest

variable (im maxQueries told)

/-- A schedule is carried out turn by turn. -/
theorem execution_perform (turns : List Turn) (s : System) :
    Execution im maxQueries s (s.perform im maxQueries told turns).1
      (s.perform im maxQueries told turns).2 := by
  induction turns generalizing s with
  | nil => exact .nil s
  | cons turn turns ih =>
    unfold perform
    cases htake : s.take im maxQueries told turn with
    | none => exact .nil s
    | some taken =>
      obtain ⟨e, s'⟩ := taken
      exact .cons (step_of_take htake) (ih s')

end System

end BulkImport.Scheduler
