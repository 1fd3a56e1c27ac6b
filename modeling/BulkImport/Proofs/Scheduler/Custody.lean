import BulkImport.Proofs.Scheduler.Exclusion

/-!
# What a cycle has in its custody

Between two candidates a cycle has nothing in its custody.  For a candidate it takes a permit, then
the target, and either hands both over to the import that it spawns or gives both back, the target
first (`custody`).  It does so whatever jobs are listed and whether or not they can be stored, as
long as storing a job leaves it its target (`custody_cycle`).

Which target a cycle has claimed and neither released nor spawned an import for can be told from
what it asked so far (`Holds`), and that is the target in its custody (`holds_heldAfter`).
-/

namespace BulkImport.Scheduler

open BulkImport.Job BulkImport.Program
open BulkImport.Import (SameTarget)

/-- The permit and the target that a cycle has on it. -/
structure Custody where
  permit : Bool := false
  target : Option Target := none

/-- The protocol of a cycle with what it has in its custody. -/
def custody : Protocol Question Answer Custody where
  allows g
    | .takePermit => g.permit = false ∧ g.target = none
    | .returnPermit => g.permit = true ∧ g.target = none
    | .claim _ => g.permit = true ∧ g.target = none
    | .release t => g.permit = true ∧ g.target = some t
    | .spawn job t => g.permit = true ∧ g.target = some t ∧ Target.ofJob? job = some t
    | _ => True
  expects _
    | .store job, .ok stored => SameTarget job stored
    | _, _ => True
  next g
    | .takePermit, true => { g with permit := true }
    | .returnPermit, _ => { g with permit := false }
    | .claim t, true => { g with target := some t }
    | .release _, _ => { g with target := none }
    | .spawn _ _, _ => {}
    | _, _ => g

/-! ### Cycles -/

/-- The import that comes back has the target that the candidate had. -/
theorem custody_enqueue {job : ImportJob} {t : Target} {g : Custody}
    (htarget : Target.ofJob? job = some t) :
    Obeys custody (fun g' queued => g' = g ∧ ∀ j, queued = some j → Target.ofJob? j = some t) g
      (enqueue job) := by
  refine obeys_enqueue_of (fun _ => ⟨rfl, ?_⟩) fun _ => ⟨trivial, fun r hr => ⟨rfl, ?_⟩⟩
  · rintro j ⟨⟩
    exact htarget
  · cases r with
    | error e => exact fun j hj => nomatch hj
    | ok stored =>
      have hqueued : SameTarget job { job with status := .queued } := ⟨rfl, rfl, rfl⟩
      rintro j ⟨⟩
      exact (ofJob?_congr (hqueued.trans hr)).trans htarget

/-- A cycle has nothing on it after a candidate, as it had before. -/
theorem custody_consider (maxQueries : Nat) (load : List (String × Bool)) (job : ImportJob) :
    Obeys custody (fun g _ => g = {}) {} (consider maxQueries load job) := by
  unfold consider
  cases htarget : Target.ofJob? job with
  | none => exact rfl
  | some t =>
    refine obeys_query trivial fun isTaken _ => ?_
    cases isTaken with
    | true => exact rfl
    | false =>
      refine obeys_andThen (obeys_lookUpBusy maxQueries load trivial fun _ => rfl) ?_
      rintro _ ⟨busy, load'⟩ rfl
      cases busy with
      | true => exact rfl
      | false =>
        refine obeys_query ⟨rfl, rfl⟩ fun permit _ => ?_
        cases permit with
        | false => exact rfl
        | true =>
          refine obeys_query ⟨rfl, rfl⟩ fun claimed _ => ?_
          cases claimed with
          | false => exact obeys_query ⟨rfl, rfl⟩ fun _ _ => rfl
          | true =>
            refine obeys_andThen (custody_enqueue htarget) ?_
            rintro _ queued ⟨rfl, hqueued⟩
            cases queued with
            | none => exact obeys_query ⟨rfl, rfl⟩ fun _ _ => obeys_query ⟨rfl, rfl⟩ fun _ _ => rfl
            | some j => exact obeys_query ⟨rfl, rfl, hqueued j rfl⟩ fun _ _ => rfl

theorem custody_dispatch (maxQueries : Nat) (load : List (String × Bool)) (jobs : List ImportJob) :
    Obeys custody (fun g _ => g = {}) {} (dispatch maxQueries load jobs) := by
  induction jobs generalizing load with
  | nil => exact rfl
  | cons job jobs ih =>
    refine obeys_andThen (custody_consider maxQueries load job) ?_
    rintro _ ⟨verdict, load'⟩ rfl
    cases verdict with
    | exhausted => exact rfl
    | deferred => exact ih load'
    | dispatched => exact obeys_andThen (ih load') fun _ _ hg => hg

/-- A cycle begins with nothing on it and ends with nothing. -/
theorem custody_cycle (maxQueries : Nat) :
    Obeys custody (fun g _ => g = {}) {} (cycle maxQueries) := by
  refine obeys_query trivial fun queued _ => ?_
  cases queued with
  | error e => exact rfl
  | ok queued =>
    refine obeys_query trivial fun waiting _ => ?_
    cases waiting with
    | error e => exact rfl
    | ok waiting => exact obeys_andThen (custody_dispatch maxQueries [] _) fun _ _ hg => hg

/-! ### The target of a cycle -/

/-- The cycle is rid of a target: it released it, or spawned an import for it. -/
def LetsGo (t : Target) (e : Exchange Question Answer) : Prop :=
  e.question = .release t ∨ ∃ job, e.question = .spawn job t

/-- By what it asked and was told, a cycle has claimed a target and is not rid of it since. -/
def Holds (past : List (Exchange Question Answer)) (t : Target) : Prop :=
  ∃ before after, past = before ++ ⟨.claim t, true⟩ :: after ∧ ∀ e ∈ after, ¬ LetsGo t e

theorem not_holds_nil (t : Target) : ¬ Holds [] t := not_since_nil _ _

/-- After one more exchange, a cycle holds what it has claimed just now, and what it held and is not
rid of now. -/
theorem holds_append {past : List (Exchange Question Answer)} {e : Exchange Question Answer}
    {t : Target} : Holds (past ++ [e]) t ↔ e = ⟨.claim t, true⟩ ∨ (Holds past t ∧ ¬ LetsGo t e) :=
  since_append

/-- What a cycle holds by what it asked is the target that it goes by. -/
theorem holds_heldAfter {past : List (Exchange Question Answer)} {held : Option Target}
    {q : Question} {a : Answer q} (hdue : Due held q) (h : ∀ t, Holds past t ↔ held = some t)
    (t : Target) : Holds (past ++ [⟨q, a⟩]) t ↔ heldAfter held q a = some t := by
  rw [holds_append, h]
  cases q with
  | claim u =>
    have hnone : held = none := hdue
    cases a <;> simp [hnone, heldAfter]
  | release u =>
    have hheld : held = some u := hdue
    simp [hheld, heldAfter, LetsGo]
  | spawn job u =>
    have hheld : held = some u := hdue
    simp [hheld, heldAfter, LetsGo]
  | list | isTaken | countQueries | takePermit | returnPermit | store =>
    simp [heldAfter, LetsGo]

theorem target_next (g : Custody) (q : Question) (a : Answer q) :
    (custody.next g q a).target = heldAfter g.target q a := by
  cases q with
  | claim | takePermit => cases a <;> rfl
  | list | isTaken | countQueries | returnPermit | release | store | spawn => rfl

theorem due_of_custody {g : Custody} {q : Question} (h : custody.allows g q) : Due g.target q := by
  cases q with
  | claim | release => exact h.2
  | spawn => exact h.2.1
  | list | isTaken | countQueries | takePermit | returnPermit | store => trivial

end BulkImport.Scheduler
