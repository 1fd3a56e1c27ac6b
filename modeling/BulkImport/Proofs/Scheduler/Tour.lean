import BulkImport.Proofs.Scheduler.Balance

/-!
# What a cycle does about the queue

The jobs that can be let run are the imports that are queued or waiting and have a target
(`runnable`).  A cycle that is told of nothing but what was stored when it began goes through them,
each once (`candidates`, `candidates_nodup`).

A *tour* is such a cycle, on which nobody else has taken anything until it has spawned an import
(`touring`).  It stores and spawns each import at most once, stores none without spawning it, and
spawns one at least if there is one that can be let run (`touring_cycle`).
-/

namespace BulkImport.Scheduler

open BulkImport.Job BulkImport.Program
open BulkImport.Import (SameTarget)

/-! ### What can be let run -/

/-- The job can be let run: it is an import that is queued or waiting, and has a target. -/
def Runnable : Job → Prop
  | .importing job => (job.status = .queued ∨ job.status = .waiting) ∧ (Target.ofJob? job).isSome
  | .exporting _ => False

instance : DecidablePred Runnable
  | .importing job => inferInstanceAs (Decidable
      ((job.status = .queued ∨ job.status = .waiting) ∧ (Target.ofJob? job).isSome))
  | .exporting _ => .isFalse id

/-- The names of the jobs that can be let run. -/
def runnable (m : Store.Memory) : List String :=
  m.keys.filter fun id => (m.find? id).any fun job => decide (Runnable job)

theorem mem_runnable {m : Store.Memory} {id : String} :
    id ∈ runnable m ↔ ∃ job, m.find? id = some job ∧ Runnable job := by
  unfold runnable
  rw [List.mem_filter, Dictionary.mem_keys_iff, Option.any_eq_true]
  simp only [decide_eq_true_iff]
  constructor
  · rintro ⟨-, hjob⟩
    exact hjob
  · rintro ⟨job, hfind, hrunnable⟩
    exact ⟨⟨job, hfind⟩, job, hfind, hrunnable⟩

theorem runnable_nodup (m : Store.Memory) : (runnable m).Nodup := m.keys_nodup.filter _

/-- The imports that a cycle goes through, when these jobs are stored. -/
def candidates (m : Store.Memory) : List ImportJob :=
  (m.list { kind := some .importing, status := some .queued } ++
    m.list { kind := some .importing, status := some .waiting }).filterMap Job.import?

theorem mem_filterMap_import {l : List Job} {job : ImportJob} :
    job ∈ l.filterMap Job.import? ↔ .importing job ∈ l := by
  rw [List.mem_filterMap]
  constructor
  · rintro ⟨listed, hmem, himport⟩
    cases listed with
    | exporting e => cases himport
    | importing j =>
      cases himport
      exact hmem
  · exact fun hmem => ⟨_, hmem, rfl⟩

/-- An import is listed in a status if it is stored under its name, in that status. -/
theorem mem_listing {m : Store.Memory} (h : Named m) {job : ImportJob} {status : Status} :
    .importing job ∈ m.list { kind := some .importing, status := some status } ↔
      m.find? job.id = some (.importing job) ∧ job.status = status := by
  rw [Store.Memory.mem_list, admits_listing]
  constructor
  · rintro ⟨⟨id, hid⟩, -, hstatus⟩
    obtain rfl : job.id = id := h id _ hid
    exact ⟨hid, hstatus⟩
  · rintro ⟨hid, hstatus⟩
    exact ⟨⟨_, hid⟩, rfl, hstatus⟩

theorem mem_candidates {m : Store.Memory} (h : Named m) {job : ImportJob} :
    job ∈ candidates m ↔ m.find? job.id = some (.importing job) ∧
      (job.status = .queued ∨ job.status = .waiting) := by
  rw [candidates, mem_filterMap_import, List.mem_append, mem_listing h, mem_listing h, and_or_left]

/-- A listing names no job twice. -/
theorem list_nodup {m : Store.Memory} (h : Named m) (f : Job.Filter) :
    ((m.list f).map Job.id).Nodup := by
  have hnames : m.values.map Job.id = m.keys := by
    unfold Dictionary.values Dictionary.keys
    rw [List.map_map]
    exact List.map_congr_left fun e he => h e.1 e.2 (Dictionary.mem_entries_iff.1 he)
  have hvalues : (m.values.map Job.id).Nodup := hnames ▸ m.keys_nodup
  have hfilter : ((m.values.filter f.admits).map Job.id).Nodup :=
    hvalues.sublist (List.filter_sublist.map _)
  exact ((List.mergeSort_perm _ _).map Job.id).symm.nodup hfilter

theorem sublist_filterMap_import (l : List Job) :
    ((l.filterMap Job.import?).map (·.id)).Sublist (l.map Job.id) := by
  induction l with
  | nil => exact .slnil
  | cons job l ih =>
    cases job with
    | importing j => exact ih.cons_cons _
    | exporting e => exact ih.cons _

/-- A cycle goes through an import once. -/
theorem candidates_nodup {m : Store.Memory} (h : Named m) :
    ((candidates m).map (·.id)).Nodup := by
  refine List.Nodup.sublist (sublist_filterMap_import _) ?_
  rw [List.map_append, List.nodup_append]
  refine ⟨list_nodup h _, list_nodup h _, ?_⟩
  -- what is stored under one name has one status
  rintro _ hqueued _ hwaiting rfl
  obtain ⟨job, hjob, hname⟩ := List.mem_map.1 hqueued
  obtain ⟨job', hjob', rfl⟩ := List.mem_map.1 hwaiting
  obtain ⟨⟨id, hid⟩, hadmits⟩ := Store.Memory.mem_list.1 hjob
  obtain ⟨⟨id', hid'⟩, hadmits'⟩ := Store.Memory.mem_list.1 hjob'
  rw [← h id _ hid, hname, h id' _ hid', hid'] at hid
  cases hid
  have hstatus := (admits_listing.1 hadmits).2.symm.trans (admits_listing.1 hadmits').2
  cases hstatus

/-! ### Tours -/

/-- What a cycle has done about the queue: what it has on it, the import that it stored and has not
spawned yet, and those that it spawned. -/
structure Tour where
  custody : Custody := {}
  kept : Option String := none
  spawned : List String := []

/-- The protocol of a cycle that is told of the jobs that were stored when it began.  Nothing is
taken as long as it has spawned nothing, and every import can be stored. -/
def touring (m : Store.Memory) : Protocol Question Answer Tour where
  allows g
    | .list _ => g.kept = none ∧ g.spawned = []
    | .isTaken _ => g.custody.target = none
    | .store job => g.kept = none ∧ job.id ∉ g.spawned
    | .spawn job _ => (∀ id, g.kept = some id → id = job.id) ∧ job.id ∉ g.spawned
    | _ => True
  expects g
    | .list status, found => found = .ok (m.list { kind := some .importing, status := some status })
    | .isTaken _, taken => g.spawned = [] → taken = false
    | .takePermit, permit => g.spawned = [] → permit = true
    | .claim _, claimed => g.spawned = [] → claimed = true
    | .store job, r => ∃ stored, r = .ok stored ∧ stored.id = job.id
    | _, _ => True
  next g
    | .store job, r => { g with custody := custody.next g.custody (.store job) r, kept := job.id }
    | .spawn job t, r =>
      { custody := custody.next g.custody (.spawn job t) r
        spawned := job.id :: g.spawned }
    | q, a => { g with custody := custody.next g.custody q a }

/-- A cycle has nothing on it, and has spawned what it stored. -/
structure Between (g : Tour) : Prop where
  custody : g.custody = {}
  kept : g.kept = none

/-- A cycle has come to its end, and has spawned an import unless there was none that can be let
run. -/
structure Toured (m : Store.Memory) (g : Tour) : Prop extends Between g where
  spawned : g.spawned = [] → runnable m = []

/-- Where statements are not counted, no connector is found to be busy. -/
theorem lookUpBusy_unlimited {load : List (String × Bool)} (hload : ∀ e ∈ load, e.2 = false)
    (connector : String) : ∃ load', (∀ e ∈ load', e.2 = false) ∧
      lookUpBusy 0 load connector = pure (false, load') := by
  unfold lookUpBusy
  cases hknown : load.lookup connector with
  | some busy =>
    obtain ⟨l₁, l₂, rfl, -⟩ := List.lookup_eq_some_iff.1 hknown
    obtain rfl := hload (connector, busy) List.mem_append_cons_self
    exact ⟨_, hload, rfl⟩
  | none =>
    refine ⟨(connector, false) :: load, ?_, rfl⟩
    exact List.forall_mem_cons.2 ⟨rfl, hload⟩

/-- The import comes back as one to spawn. -/
theorem touring_enqueue {m : Store.Memory} {job : ImportJob} {g : Tour} (hkept : g.kept = none)
    (hnew : job.id ∉ g.spawned) :
    Obeys (touring m)
      (fun g' queued => (∃ j, queued = some j ∧ j.id = job.id) ∧ g'.custody = g.custody ∧
        (∀ id, g'.kept = some id → id = job.id) ∧ g'.spawned = g.spawned) g (enqueue job) := by
  refine obeys_enqueue_of (fun _ => ⟨⟨job, rfl, rfl⟩, rfl, ?_, rfl⟩)
    fun _ => ⟨⟨hkept, hnew⟩, ?_⟩
  · intro id hid
    rw [hkept] at hid
    cases hid
  · rintro _ ⟨stored, rfl, hid⟩
    refine ⟨⟨stored, rfl, hid⟩, rfl, ?_, rfl⟩
    rintro _ ⟨⟩
    rfl

/-- What a tour makes of a candidate, with the names that were spawned before it and after it.  It
passes over one that has a target, and runs out of permits, only if it has spawned another one. -/
inductive Considered (job : ImportJob) (spawned : List String) : Verdict → List String → Prop where
  | dispatched : Considered job spawned .dispatched (job.id :: spawned)
  | deferred (h : spawned = [] → Target.ofJob? job = none) :
      Considered job spawned .deferred spawned
  | exhausted (h : spawned ≠ []) : Considered job spawned .exhausted spawned

theorem touring_consider {m : Store.Memory} {load : List (String × Bool)} {job : ImportJob}
    {g : Tour} (hload : ∀ e ∈ load, e.2 = false) (hbetween : Between g)
    (hnew : job.id ∉ g.spawned) :
    Obeys (touring m)
      (fun g' result => Between g' ∧ (∀ e ∈ result.2, e.2 = false) ∧
        Considered job g.spawned result.1 g'.spawned)
      g (consider 0 load job) := by
  obtain ⟨_, _, spawned⟩ := g
  obtain ⟨rfl, rfl⟩ := hbetween
  unfold consider
  cases htarget : Target.ofJob? job with
  | none => exact ⟨⟨rfl, rfl⟩, hload, .deferred fun _ => htarget⟩
  | some t =>
    refine obeys_query rfl fun taken hfree => ?_
    cases taken with
    | true => exact ⟨⟨rfl, rfl⟩, hload, .deferred fun hnone => nomatch hfree hnone⟩
    | false =>
      obtain ⟨load', hload', hidle⟩ := lookUpBusy_unlimited hload t.connector
      dsimp only
      rw [hidle]
      refine obeys_query trivial fun permit hpermit => ?_
      cases permit with
      | false => exact ⟨⟨rfl, rfl⟩, hload', .exhausted fun hnone => nomatch hpermit hnone⟩
      | true =>
        refine obeys_query trivial fun claimed hclaim => ?_
        cases claimed with
        | false =>
          refine obeys_query trivial fun _ _ => ?_
          exact ⟨⟨rfl, rfl⟩, hload', .deferred fun hnone => nomatch hclaim hnone⟩
        | true =>
          refine obeys_andThen (touring_enqueue rfl hnew) ?_
          rintro g' _ ⟨⟨j, rfl, hid⟩, hcustody, hkept, hspawned⟩
          obtain rfl : g'.spawned = spawned := hspawned
          rw [← hid] at hkept hnew
          refine obeys_query ⟨hkept, hnew⟩ fun _ _ => ⟨⟨rfl, rfl⟩, hload', ?_⟩
          show Considered job g'.spawned .dispatched (j.id :: g'.spawned)
          rw [hid]
          exact .dispatched

/-- After all candidates one was spawned, if one has a target. -/
theorem touring_dispatch {m : Store.Memory} {load : List (String × Bool)} {jobs : List ImportJob}
    {g : Tour} (hload : ∀ e ∈ load, e.2 = false) (hbetween : Between g)
    (hjobs : (jobs.map (·.id)).Nodup) (hnew : ∀ job ∈ jobs, job.id ∉ g.spawned) :
    Obeys (touring m)
      (fun g' _ => Between g' ∧
        (g'.spawned = [] → g.spawned = [] ∧ ∀ job ∈ jobs, Target.ofJob? job = none))
      g (dispatch 0 load jobs) := by
  induction jobs generalizing load g with
  | nil => exact ⟨hbetween, fun hnone => ⟨hnone, List.forall_mem_nil _⟩⟩
  | cons job jobs ih =>
    obtain ⟨hjob, hjobs⟩ := List.nodup_cons.1 hjobs
    rw [List.forall_mem_cons] at hnew
    refine obeys_andThen (touring_consider hload hbetween hnew.1) ?_
    rintro ⟨custody, kept, spawned⟩ ⟨verdict, load'⟩ ⟨hbetween', hload', hconsidered⟩
    cases hconsidered with
    | exhausted hsome => exact ⟨hbetween', fun hnone => absurd hnone hsome⟩
    | deferred htarget =>
      refine Obeys.imp (ih hload' hbetween' hjobs hnew.2) ?_
      rintro g' _ ⟨hbetween'', hnone⟩
      refine ⟨hbetween'', fun hnil => ?_⟩
      obtain ⟨hfirst, hothers⟩ := hnone hnil
      exact ⟨hfirst, List.forall_mem_cons.2 ⟨htarget hfirst, hothers⟩⟩
    | dispatched =>
      -- no other candidate has this name
      have hnew' : ∀ j ∈ jobs, j.id ∉ job.id :: g.spawned := by
        intro j hj
        rw [List.mem_cons, not_or]
        exact ⟨fun hid => hjob (List.mem_map.2 ⟨j, hj, hid⟩), hnew.2 j hj⟩
      refine obeys_andThen (ih hload' hbetween' hjobs hnew') ?_
      rintro g' more ⟨hbetween'', hnone⟩
      exact ⟨hbetween'', fun hnil => nomatch (hnone hnil).1⟩

/-- A cycle goes on its tour, and spawns an import if there is one that can be let run. -/
theorem touring_cycle {m : Store.Memory} (h : Named m) :
    Obeys (touring m) (fun g _ => Toured m g) {} (cycle 0) := by
  refine obeys_query ⟨rfl, rfl⟩ ?_
  rintro _ rfl
  refine obeys_query ⟨rfl, rfl⟩ ?_
  rintro _ rfl
  refine obeys_andThen (touring_dispatch (List.forall_mem_nil _) ⟨rfl, rfl⟩ (candidates_nodup h)
    fun _ _ => List.not_mem_nil) ?_
  rintro g n ⟨hbetween, hnone⟩
  refine ⟨hbetween, fun hnil => List.eq_nil_iff_forall_not_mem.2 fun id hid => ?_⟩
  obtain ⟨job, hfind, hrunnable⟩ := mem_runnable.1 hid
  cases job with
  | exporting e => exact hrunnable
  | importing job =>
    obtain ⟨hopen, htarget⟩ := hrunnable
    obtain rfl : job.id = id := h id _ hfind
    rw [(hnone hnil).2 job ((mem_candidates h).2 ⟨hfind, hopen⟩)] at htarget
    cases htarget

end BulkImport.Scheduler
