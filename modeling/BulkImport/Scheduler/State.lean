import BulkImport.Import.Run
import BulkImport.Scheduler.Cycle

/-!
# The state of a scheduler

The permits that are left, the targets that are taken, and the imports that were spawned and have
not ended, each as far as it has come.  Main statements: a target is taken by at most one claim
(`claim_twice`), and what a claim takes a release gives back (`release_claim`).
-/

namespace BulkImport.Scheduler

/-- An import that was spawned. -/
structure Run where
  /-- Its place among all that were spawned. -/
  number : Nat
  /-- The job as it was handed over. -/
  job : ImportJob
  target : Target
  /-- What it has still to do. -/
  rest : Import.Action ImportJob

/-- What the scheduler keeps in mind between its steps. -/
structure State where
  /-- How many more imports may run. -/
  permits : Nat
  /-- The targets that are taken. -/
  taken : List Target := []
  /-- The imports that run, in the order they were spawned. -/
  runs : List Run := []
  /-- How many imports were spawned. -/
  spawned : Nat := 0

namespace State

/-- Whether there was a permit, and the state without it. -/
def takePermit (s : State) : Bool × State :=
  match s.permits with
  | 0 => (false, s)
  | n + 1 => (true, { s with permits := n })

/-- The state with a permit more. -/
def returnPermit (s : State) : State := { s with permits := s.permits + 1 }

/-- Whether a target was free, and the state in which it is taken. -/
def claim (s : State) (t : Target) : Bool × State :=
  if t ∈ s.taken then (false, s) else (true, { s with taken := t :: s.taken })

/-- The state in which a target is free. -/
def release (s : State) (t : Target) : State :=
  { s with taken := s.taken.filter (· ≠ t) }

/-- The state with one more import that runs. -/
def spawn (s : State) (im : Import.Importer) (job : ImportJob) (t : Target) : State :=
  { s with
    runs := s.runs ++ [{ number := s.spawned, job, target := t, rest := im.run job }]
    spawned := s.spawned + 1 }

/-- The state after a run has ended: its target is free, and its permit is back. -/
def finish (s : State) (r : Run) : State := (s.release r.target).returnPermit

@[simp] theorem takePermit_runs (s : State) : s.takePermit.2.runs = s.runs := by
  unfold takePermit
  split <;> rfl

@[simp] theorem takePermit_taken (s : State) : s.takePermit.2.taken = s.taken := by
  unfold takePermit
  split <;> rfl

@[simp] theorem claim_runs (s : State) (t : Target) : (s.claim t).2.runs = s.runs := by
  unfold claim
  split <;> rfl

theorem claim_twice (s : State) (t : Target) : ((s.claim t).2.claim t).1 = false := by
  unfold claim
  by_cases h : t ∈ s.taken <;> simp [h]

theorem release_claim {s : State} {t : Target} (h : t ∉ s.taken) :
    ((s.claim t).2.release t).taken = s.taken := by
  simp only [claim, h, if_false, release]
  rw [List.filter_cons_of_neg (by simp)]
  refine List.filter_eq_self.2 fun a ha => ?_
  have hne : a ≠ t := by
    intro e
    subst e
    exact h ha
  simpa using hne

end State

end BulkImport.Scheduler
