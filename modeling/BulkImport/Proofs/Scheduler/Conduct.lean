import BulkImport.Proofs.Import.Course
import BulkImport.Proofs.Scheduler.Interleaving

/-!
# How cycles and imports conduct themselves

A cycle stores and spawns only imports that it listed or stored itself, as queued ones, and only
while it holds their targets (`obeys_cycle`).  An import that runs records itself only, with the
target it has, until it records that it has ended, and it does so before it comes to its end
(`obeys_run`).
-/

namespace BulkImport.Scheduler

open BulkImport.Job BulkImport.Program
open BulkImport.Import (SameTarget History)
open BulkImport.ImportJob (advance_of_canAdvanceTo)

/-! ### Cycles -/

/-- What a cycle goes by: the imports that it listed or stored, and the target that it holds. -/
structure Standing where
  known : List ImportJob := []
  held : Option Target := none

/-- The protocol of a cycle. -/
def conduct : Protocol Question Answer Standing where
  allows g
    | .list status => status = .queued ∨ status = .waiting
    | .claim _ => g.held = none
    | .release t => g.held = some t
    | .store job => job.status = .queued ∧ (∃ j ∈ g.known, SameTarget j job) ∧
        ∃ t, g.held = some t ∧ Target.ofJob? job = some t
    | .spawn job t => job.status = .queued ∧ job ∈ g.known ∧ g.held = some t ∧
        Target.ofJob? job = some t
    | _ => True
  expects _
    | .list status, .ok jobs => ∀ job ∈ jobs.filterMap Job.import?, job.status = status
    | .store job, .ok stored => SameTarget job stored ∧ stored.status = job.status
    | _, _ => True
  next g
    | .list _, .ok jobs => { g with known := jobs.filterMap Job.import? ++ g.known }
    | .claim t, true => { g with held := some t }
    | .release _, _ => { g with held := none }
    | .store _, .ok stored => { g with known := stored :: g.known }
    | .spawn _ _, _ => { g with held := none }
    | _, _ => g

theorem known_next_claim (g : Standing) (t : Target) (claimed : Bool) :
    (conduct.next g (.claim t) claimed).known = g.known := by
  cases claimed <;> rfl

theorem ofJob?_congr {job job' : ImportJob} (h : SameTarget job job') :
    Target.ofJob? job' = Target.ofJob? job := by
  unfold Target.ofJob?
  rw [h.connector, h.table]

/-- Finding out how busy a connector is leaves a cycle where it is, in a protocol that leaves it
there when it counts statements. -/
theorem obeys_lookUpBusy {σ : Type} {P : Protocol Question Answer σ} {g : σ} (maxQueries : Nat)
    (load : List (String × Bool)) {connector : String}
    (hallows : P.allows g (.countQueries connector))
    (hnext : ∀ running, P.next g (.countQueries connector) running = g) :
    Obeys P (fun g' _ => g' = g) g (lookUpBusy maxQueries load connector) := by
  unfold lookUpBusy
  split
  · exact rfl
  · have hbusy : Obeys P (fun g' _ => g' = g) g (isBusy maxQueries connector) := by
      unfold isBusy
      split
      · exact rfl
      · refine obeys_query hallows fun answer _ => ?_
        cases answer with
        | ok running => exact hnext _
        | error e => exact hnext _
    refine obeys_andThen hbusy ?_
    rintro g' busy rfl
    exact rfl

/-- An import that is waiting is stored as a queued one and comes back as it was stored, any other
one as it is. -/
theorem obeys_enqueue_of {σ : Type} {P : Protocol Question Answer σ}
    {fits : σ → Option ImportJob → Prop} {g : σ} {job : ImportJob}
    (hqueued : job.status ≠ .waiting → fits g (some job))
    (hwaiting : job.status = .waiting → P.allows g (.store { job with status := .queued }) ∧
      ∀ r, P.expects g (.store { job with status := .queued }) r →
        fits (P.next g (.store { job with status := .queued }) r) r.toOption) :
    Obeys P fits g (enqueue job) := by
  unfold enqueue
  by_cases hstatus : job.status = .waiting
  · have hcan : job.status.CanAdvanceTo .queued := hstatus ▸ by decide
    obtain ⟨hallows, hnext⟩ := hwaiting hstatus
    rw [if_pos hstatus, advance_of_canAdvanceTo hcan]
    refine obeys_query hallows fun r hr => ?_
    cases r with
    | ok | error => exact hnext _ hr
  · rw [if_neg hstatus]
    exact hqueued hstatus

/-- The import that comes back is a queued one that the cycle knows, with the target it holds. -/
theorem obeys_enqueue {job : ImportJob} {t : Target} {g : Standing} (hheld : g.held = some t)
    (hjob : job ∈ g.known) (htarget : Target.ofJob? job = some t)
    (hstatus : job.status = .queued ∨ job.status = .waiting) :
    Obeys conduct
      (fun g' queued => g'.held = some t ∧ (∀ j ∈ g.known, j ∈ g'.known) ∧
        ∀ j, queued = some j →
          j.status = .queued ∧ j ∈ g'.known ∧ Target.ofJob? j = some t) g (enqueue job) := by
  have hqueued : SameTarget job { job with status := .queued } := ⟨rfl, rfl, rfl⟩
  have hsame := (ofJob?_congr hqueued).trans htarget
  refine obeys_enqueue_of (fun hwaiting => ?_)
    fun _ => ⟨⟨rfl, ⟨job, hjob, hqueued⟩, t, hheld, hsame⟩, fun r hr => ?_⟩
  · refine ⟨hheld, fun j hj => hj, ?_⟩
    rintro j ⟨⟩
    exact ⟨hstatus.resolve_right hwaiting, hjob, htarget⟩
  · cases r with
    | error e => exact ⟨hheld, fun j hj => hj, fun j hj => nomatch hj⟩
    | ok stored =>
      -- storing an import leaves its name and its target alone
      obtain ⟨hstored, hagain⟩ := hr
      refine ⟨hheld, fun j hj => List.mem_cons_of_mem _ hj, ?_⟩
      rintro j ⟨⟩
      exact ⟨hagain, List.mem_cons_self, (ofJob?_congr hstored).trans hsame⟩

/-- A cycle that considers a candidate it knows ends up holding nothing, and knows no less. -/
theorem obeys_consider (maxQueries : Nat) (load : List (String × Bool)) {job : ImportJob}
    {g : Standing} (hheld : g.held = none) (hjob : job ∈ g.known)
    (hstatus : job.status = .queued ∨ job.status = .waiting) :
    Obeys conduct (fun g' _ => g'.held = none ∧ ∀ j ∈ g.known, j ∈ g'.known) g
      (consider maxQueries load job) := by
  have hdeferred : g.held = none ∧ ∀ j ∈ g.known, j ∈ g.known := ⟨hheld, fun j hj => hj⟩
  unfold consider
  cases htarget : Target.ofJob? job with
  | none => exact hdeferred
  | some t =>
    refine obeys_query trivial fun isTaken _ => ?_
    cases isTaken with
    | true => exact hdeferred
    | false =>
      refine obeys_andThen (obeys_lookUpBusy maxQueries load trivial fun _ => rfl) ?_
      rintro g' ⟨busy, load'⟩ rfl
      cases busy with
      | true => exact hdeferred
      | false =>
        refine obeys_query trivial fun permit _ => ?_
        cases permit with
        | false => exact hdeferred
        | true =>
          refine obeys_query hheld fun claimed _ => ?_
          cases claimed with
          | false => exact obeys_query trivial fun _ _ => hdeferred
          | true =>
            refine obeys_andThen (obeys_enqueue rfl hjob htarget hstatus) ?_
            rintro g₁ queued ⟨hheld₁, hknown, hqueued⟩
            cases queued with
            | none =>
              exact obeys_query hheld₁ fun _ _ => obeys_query trivial fun _ _ => ⟨rfl, hknown⟩
            | some j =>
              obtain ⟨hj, hmem, hsame⟩ := hqueued j rfl
              exact obeys_query ⟨hj, hmem, hheld₁, hsame⟩ fun _ _ => ⟨rfl, hknown⟩

theorem obeys_dispatch (maxQueries : Nat) (load : List (String × Bool)) {jobs : List ImportJob}
    {g : Standing} (hheld : g.held = none)
    (hjobs : ∀ job ∈ jobs, job ∈ g.known ∧ (job.status = .queued ∨ job.status = .waiting)) :
    Obeys conduct (fun g' _ => g'.held = none) g (dispatch maxQueries load jobs) := by
  induction jobs generalizing load g with
  | nil => exact hheld
  | cons job jobs ih =>
    obtain ⟨hjob, hstatus⟩ := hjobs job List.mem_cons_self
    refine obeys_andThen (obeys_consider maxQueries load hheld hjob hstatus) ?_
    rintro g' ⟨verdict, load'⟩ ⟨hheld', hknown⟩
    have hrest := ih load' hheld' fun j hj =>
      ⟨hknown j (hjobs j (List.mem_cons_of_mem _ hj)).1, (hjobs j (List.mem_cons_of_mem _ hj)).2⟩
    cases verdict with
    | exhausted => exact hheld'
    | deferred => exact hrest
    | dispatched => exact obeys_andThen hrest fun g'' _ hg'' => hg''

/-- A cycle keeps to its protocol and ends up holding nothing. -/
theorem obeys_cycle (maxQueries : Nat) :
    Obeys conduct (fun g _ => g.held = none) {} (cycle maxQueries) := by
  refine obeys_query (.inl rfl) fun queued hqueued => ?_
  cases queued with
  | error e => exact rfl
  | ok queued =>
    refine obeys_query (.inr rfl) fun waiting hwaiting => ?_
    cases waiting with
    | error e => exact rfl
    | ok waiting =>
      refine obeys_andThen (obeys_dispatch maxQueries [] rfl ?_) fun g _ hg => hg
      intro job hjob
      rw [List.filterMap_append, List.mem_append] at hjob
      rcases hjob with hjob | hjob
      · exact ⟨List.mem_append_right _ (List.mem_append_left _ hjob), .inl (hqueued job hjob)⟩
      · exact ⟨List.mem_append_left _ hjob, .inr (hwaiting job hjob)⟩

/-! ### Imports -/

/-- The protocol of an import that keeps a job: what has ended is not recorded again. -/
def recording (job : ImportJob) : Protocol Import.Question Import.Answer Bool where
  allows ended
    | .record j => ended = false ∧ SameTarget job j
    | _ => True
  expects _ _ _ := True
  next ended
    | .record j, _ => j.status.isFinal
    | _, _ => ended

/-- What is done without a record changes nothing. -/
theorem legal_recording_of_unrecorded {job : ImportJob} {ended : Bool} {h : History}
    (hunrecorded : Import.recorded h = []) :
    (recording job).Legal ended h ∧ (recording job).after ended h = ended := by
  induction h with
  | nil => exact ⟨trivial, rfl⟩
  | cons e h ih =>
    obtain ⟨q, answer⟩ := e
    cases q with
    | record j => cases hunrecorded
    | connect _ | execute _ _ | executeAll _ _ | fetchInteger _ _ | fetchTexts _ _ | inspect _ _
        | now =>
      obtain ⟨hlegal, hafter⟩ := ih hunrecorded
      exact ⟨⟨trivial, hlegal⟩, hafter⟩

/-- Records of a job on its way, and then one of the job as it is at the end, are allowed. -/
theorem legal_recording {job result : ImportJob} {h : History} {earlier : List ImportJob}
    (hrecorded : Import.recorded h = earlier ++ [result]) (hresult : SameTarget job result)
    (hearlier : ∀ j ∈ earlier, SameTarget job j ∧ j.status.isFinal = false) :
    (recording job).Legal false h ∧ (recording job).after false h = result.status.isFinal := by
  induction h generalizing earlier with
  | nil => cases earlier <;> cases hrecorded
  | cons e h ih =>
    obtain ⟨q, answer⟩ := e
    cases q with
    | record j =>
      -- the last record is the one of the end; all before it are of the job on its way
      cases earlier with
      | nil =>
        obtain ⟨rfl, hnone⟩ := List.cons.inj hrecorded
        obtain ⟨hlegal, hafter⟩ := legal_recording_of_unrecorded hnone
        exact ⟨⟨⟨rfl, hresult⟩, hlegal⟩, hafter⟩
      | cons j' earlier =>
        obtain ⟨rfl, hrest⟩ := List.cons.inj hrecorded
        obtain ⟨hsame, hopen⟩ := hearlier j List.mem_cons_self
        obtain ⟨hlegal, hafter⟩ := ih hrest fun k hk => hearlier k (List.mem_cons_of_mem _ hk)
        rw [← hopen] at hlegal hafter
        exact ⟨⟨⟨rfl, hsame⟩, hlegal⟩, hafter⟩
    | connect _ | execute _ _ | executeAll _ _ | fetchInteger _ _ | fetchTexts _ _ | inspect _ _
        | now =>
      obtain ⟨hlegal, hafter⟩ := ih hrecorded hearlier
      exact ⟨⟨trivial, hlegal⟩, hafter⟩

/-- An import that has not ended records its end before it comes to it. -/
theorem obeys_run (im : Import.Importer) {job : ImportJob} (hjob : job.status.isFinal = false) :
    Obeys (recording job) (fun ended _ => ended = true) false (im.run job) := by
  have : ∀ q, Nonempty (Import.Answer q) := fun q => ⟨Import.oblige q⟩
  refine obeys_of_answered fun h result hp => ?_
  obtain ⟨earlier, hrecorded, hresult, hfinal, hearlier⟩ := Import.Importer.run_recorded hjob hp
  obtain ⟨hlegal, hafter⟩ := legal_recording hrecorded hresult hearlier
  exact ⟨hlegal, hafter.trans hfinal⟩

end BulkImport.Scheduler
