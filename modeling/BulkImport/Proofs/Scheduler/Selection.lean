import BulkImport.Proofs.Scheduler.Sampling
import BulkImport.Proofs.Scheduler.Tour
import BulkImport.Proofs.Store.Listing

/-!
# Which imports a cycle lets run

Of the imports that are queued, and then of those that are waiting, in the order in which each are
listed (`Lined`), a cycle can let those run that have a target which is free behind a connector
which is not busy, and of these the first one for each target (`dispatchable`).  It lets as many of
them run as it has permits, the first ones first (`chosen`).

This is what comes of a cycle on which nothing is given back meanwhile and every import can be
stored (`choosing_cycle`): it keeps count of the permits and of the targets that are taken, which
change by what it takes and by nothing else (`choosing`).
-/

namespace BulkImport.Scheduler

open BulkImport.Job BulkImport.Program
open BulkImport.Import (SameTarget)
open BulkImport.Store (Precedes list_precedes eq_of_precedes)

/-! ### The queue -/

/-- These are the stored imports in a status, in the order of a listing. -/
structure Lined (m : Store.Memory) (status : Status) (jobs : List ImportJob) : Prop where
  mem_iff : ∀ job, job ∈ jobs ↔ m.find? job.id = some (.importing job) ∧ job.status = status
  sorted : jobs.Pairwise fun a b => Precedes (.importing a) (.importing b)

/-- What is stored leaves one order only. -/
theorem Lined.unique {m : Store.Memory} {status : Status} {jobs jobs' : List ImportJob}
    (h : Lined m status jobs) (h' : Lined m status jobs') : jobs = jobs' :=
  eq_of_precedes h.sorted h'.sorted fun job => (h.mem_iff job).trans (h'.mem_iff job).symm

/-- The imports in a status, as they are listed. -/
def lined (m : Store.Memory) (status : Status) : List ImportJob :=
  (m.list { kind := some .importing, status := some status }).filterMap Job.import?

theorem pairwise_import {R : Job → Job → Prop} {l : List Job} (h : l.Pairwise R) :
    (l.filterMap Job.import?).Pairwise fun a b => R (.importing a) (.importing b) := by
  refine h.filterMap _ fun {a b} hab j hj j' hj' => ?_
  cases a <;> cases hj
  cases b <;> cases hj'
  exact hab

theorem lined_lined {m : Store.Memory} (h : Named m) (status : Status) :
    Lined m status (lined m status) where
  mem_iff _ := mem_filterMap_import.trans (mem_listing h)
  sorted := pairwise_import (list_precedes h _)

theorem candidates_eq (m : Store.Memory) :
    candidates m = lined m .queued ++ lined m .waiting :=
  List.filterMap_append

/-! ### Which can be let run -/

/-- The import has a target that is free. -/
def free (taken : List Target) (job : ImportJob) : Bool :=
  (Target.ofJob? job).any (· ∉ taken)

/-- The import has a target that is free, behind a connector that is not busy. -/
def eligible (taken : List Target) (busy : String → Bool) (job : ImportJob) : Bool :=
  (Target.ofJob? job).any fun t => decide (t ∉ taken) && !busy t.connector

/-- The imports that can be let run: of those that have a free target behind a connector that is not
busy, the first one for each target. -/
def dispatchable (taken : List Target) (busy : String → Bool) (jobs : List ImportJob) :
    List ImportJob :=
  (jobs.filter (eligible taken busy)).eraseDupsBy fun a b => Target.ofJob? a == Target.ofJob? b

/-- The imports that are let run with so many permits. -/
def chosen (taken : List Target) (busy : String → Bool) (permits : Nat) (jobs : List ImportJob) :
    List ImportJob :=
  (dispatchable taken busy jobs).take permits

section

variable {taken taken' : List Target} {busy : String → Bool} {job : ImportJob}
  {jobs : List ImportJob} {t : Target}

theorem free_eq_true_iff :
    free taken job = true ↔ ∃ t, Target.ofJob? job = some t ∧ t ∉ taken := by
  simp [free, Option.any_eq_true]

theorem eligible_eq_true_iff :
    eligible taken busy job = true ↔
      ∃ t, Target.ofJob? job = some t ∧ t ∉ taken ∧ busy t.connector = false := by
  simp [eligible, Option.any_eq_true]

theorem eligible_iff_of_target (htarget : Target.ofJob? job = some t) :
    eligible taken busy job = true ↔ t ∉ taken ∧ busy t.connector = false := by
  simp [eligible, htarget]

theorem dispatchable_cons_of_not (h : eligible taken busy job = false) :
    dispatchable taken busy (job :: jobs) = dispatchable taken busy jobs := by
  rw [dispatchable, List.filter_cons_of_neg (by simp [h]), dispatchable]

/-- The first import that can be let run takes its target from those after it. -/
theorem dispatchable_cons (htarget : Target.ofJob? job = some t)
    (h : eligible taken busy job = true) :
    dispatchable taken busy (job :: jobs) = job :: dispatchable (t :: taken) busy jobs := by
  rw [dispatchable, List.filter_cons_of_pos h, List.eraseDupsBy_cons, dispatchable,
    List.filter_filter]
  congr 2
  refine List.filter_congr fun j _ => ?_
  rw [Bool.eq_iff_iff, Bool.and_eq_true, decide_eq_true_iff, eligible_eq_true_iff,
    eligible_eq_true_iff, htarget, beq_eq_false_iff_ne]
  constructor
  · rintro ⟨hother, t', ht', hfree, hidle⟩
    rw [ht'] at hother
    refine ⟨t', ht', fun hmem => ?_, hidle⟩
    rcases List.mem_cons.1 hmem with rfl | hmem
    · exact hother rfl
    · exact hfree hmem
  · rintro ⟨t', ht', hfree, hidle⟩
    obtain ⟨hother, hfree⟩ := not_or.1 (mt List.mem_cons.2 hfree)
    rw [ht']
    exact ⟨fun heq => hother (Option.some.inj heq), t', rfl, hfree, hidle⟩

/-- An import whose target is taken makes no difference to what can be let run. -/
theorem dispatchable_filter_free :
    dispatchable taken busy (jobs.filter (free taken)) = dispatchable taken busy jobs := by
  rw [dispatchable, List.filter_filter, dispatchable]
  congr 1
  refine List.filter_congr fun j _ => Bool.eq_iff_iff.2 ?_
  rw [Bool.and_eq_true, eligible_eq_true_iff, free_eq_true_iff]
  constructor
  · exact fun h => h.1
  · rintro ⟨t, ht, hfree, hidle⟩
    exact ⟨⟨t, ht, hfree, hidle⟩, t, ht, hfree⟩

end

/-! ### A cycle that loses nothing -/

/-- What a cycle has done about the queue: the permits that are left, the targets that are taken,
the import that it stored and has not spawned yet, and the names of those that it spawned, in
order. -/
structure Choice where
  permits : Nat
  taken : List Target
  kept : Option ImportJob := none
  spawned : List String := []

/-- What is stored under a name is an import whose target is free. -/
def Awaits (m : Store.Memory) (taken : List Target) (id : String) : Prop :=
  ∃ job, m.find? id = some (.importing job) ∧ free taken job = true

/-- The protocol of a cycle that begins with these jobs stored and these targets taken.  The permits
and the targets change by what the cycle takes only, a connector answers by its load, and no import
fails to be stored. -/
def choosing (m : Store.Memory) (taken : List Target) (load : String → Except Database.Error Nat) :
    Protocol Question Answer Choice where
  allows g
    | .list _ => g.kept = none ∧ g.spawned = [] ∧ g.taken = taken
    | .store job => g.kept = none ∧ job.status = .queued ∧ Awaits m taken job.id ∧
        job.id ∉ g.spawned ∧ ∃ t ∈ g.taken, Target.ofJob? job = some t
    | .spawn job t => job.id ∉ g.spawned ∧ t ∈ g.taken ∧ Target.ofJob? job = some t ∧
        (g.kept = some job ∨ g.kept = none ∧ job.status = .queued ∧
          m.find? job.id = some (.importing job) ∧ free taken job = true)
    | .returnPermit | .release _ => False
    | .isTaken _ | .countQueries _ | .takePermit | .claim _ => True
  expects g
    | .list status, found => ∃ jobs, found = .ok jobs ∧
        (jobs.filterMap Job.import?).filter (free taken) = (lined m status).filter (free taken)
    | .isTaken t, answer => answer = decide (t ∈ g.taken)
    | .countQueries c, running => running = load c
    | .takePermit, permit => permit = decide (0 < g.permits)
    | .claim t, claimed => claimed = decide (t ∉ g.taken)
    | .store job, r => ∃ stored, r = .ok stored ∧ SameTarget job stored ∧
        stored.status = job.status
    | .returnPermit, _ | .release _, _ | .spawn _ _, _ => True
  next g
    | .takePermit, true => { g with permits := g.permits - 1 }
    | .claim t, true => { g with taken := t :: g.taken }
    | .store _, .ok stored => { g with kept := some stored }
    | .spawn job _, _ => { g with kept := none, spawned := g.spawned ++ [job.id] }
    | _, _ => g

/-- Whether a connector with this load is busy. -/
def busyUnder (maxQueries : Nat) (load : String → Except Database.Error Nat) (c : String) : Bool :=
  decide (maxQueries ≠ 0) && overloaded maxQueries (load c)

section

variable {m : Store.Memory} {taken : List Target} {load : String → Except Database.Error Nat}
  {maxQueries : Nat} {known : List (String × Bool)} {g : Choice} {job : ImportJob}

/-- What is known of the connectors is right. -/
def Right (busy : String → Bool) (known : List (String × Bool)) : Prop :=
  Agrees known fun c => some (busy c)

theorem choosing_isBusy (c : String) :
    Obeys (choosing m taken load) (fun g' b => g' = g ∧ b = busyUnder maxQueries load c) g
      (isBusy maxQueries c) := by
  unfold isBusy busyUnder
  split
  · next hoff => exact ⟨rfl, by simp [hoff]⟩
  · next hon =>
    refine obeys_query trivial fun running hload => ?_
    obtain rfl : running = load c := hload
    cases hrunning : load c with
    | ok | error => exact ⟨rfl, by simp [overloaded, hon]⟩

theorem choosing_lookUpBusy (hknown : Right (busyUnder maxQueries load) known) (c : String) :
    Obeys (choosing m taken load)
      (fun g' result => g' = g ∧ result.1 = busyUnder maxQueries load c ∧
        Right (busyUnder maxQueries load) result.2) g (lookUpBusy maxQueries known c) := by
  unfold lookUpBusy
  split
  · next b hb => exact ⟨rfl, (Option.some.inj (hknown c b hb)).symm, hknown⟩
  · refine obeys_andThen (choosing_isBusy c) ?_
    rintro _ b ⟨rfl, rfl⟩
    exact ⟨rfl, rfl, hknown.cons rfl⟩

/-- What becomes of a candidate: it is let run if it can be and there is a permit. -/
inductive Chosen (busy : String → Bool) (job : ImportJob) (g : Choice) :
    Verdict → Choice → Prop where
  | dispatched {t : Target} {n : Nat} (htarget : Target.ofJob? job = some t)
      (heligible : eligible g.taken busy job = true) (hpermits : g.permits = n + 1) :
      Chosen busy job g .dispatched
        { permits := n, taken := t :: g.taken, spawned := g.spawned ++ [job.id] }
  | deferred (hineligible : eligible g.taken busy job = false) : Chosen busy job g .deferred g
  | exhausted (hpermits : g.permits = 0) : Chosen busy job g .exhausted g

/-- A candidate whose target was free when the cycle began is stored as it was listed, and was not
let run before. -/
def Fitting (m : Store.Memory) (taken : List Target) (spawned : List String) (job : ImportJob) :
    Prop :=
  free taken job = true → job ∈ candidates m ∧ job.id ∉ spawned

/-- The import comes back as one that can be spawned. -/
theorem choosing_enqueue {t : Target} (hkept : g.kept = none) (htaken : t ∈ g.taken)
    (htarget : Target.ofJob? job = some t) (hfree : free taken job = true)
    (hnew : job.id ∉ g.spawned) (hstored : m.find? job.id = some (.importing job))
    (hopen : job.status = .queued ∨ job.status = .waiting) :
    Obeys (choosing m taken load)
      (fun g' queued => ∃ j, queued = some j ∧ j.id = job.id ∧ Target.ofJob? j = some t ∧
        g' = { g with kept := g'.kept } ∧ (g'.kept = some j ∨ g'.kept = none ∧
          j.status = .queued ∧ m.find? j.id = some (.importing j) ∧ free taken j = true))
      g (enqueue job) := by
  have hqueued : SameTarget job { job with status := .queued } := ⟨rfl, rfl, rfl⟩
  refine obeys_enqueue_of (fun hstatus => ?_) fun _ =>
    ⟨⟨hkept, rfl, ⟨job, hstored, hfree⟩, hnew, t, htaken, (ofJob?_congr hqueued).trans htarget⟩, ?_⟩
  · exact ⟨job, rfl, rfl, htarget, rfl,
      .inr ⟨hkept, hopen.resolve_right hstatus, hstored, hfree⟩⟩
  · rintro _ ⟨stored, rfl, hsame, -⟩
    exact ⟨stored, rfl, hsame.id, (ofJob?_congr (hqueued.trans hsame)).trans htarget, rfl, .inl rfl⟩

/-- A candidate is let run if it can be and there is a permit. -/
theorem choosing_consider (hnamed : Named m) (hknown : Right (busyUnder maxQueries load) known)
    (hgrown : ∀ t ∈ taken, t ∈ g.taken) (hkept : g.kept = none)
    (hfits : Fitting m taken g.spawned job) :
    Obeys (choosing m taken load)
      (fun g' result => Right (busyUnder maxQueries load) result.2 ∧
        Chosen (busyUnder maxQueries load) job g result.1 g')
      g (consider maxQueries known job) := by
  unfold consider
  cases htarget : Target.ofJob? job with
  | none => exact ⟨hknown, .deferred (by simp [eligible, htarget])⟩
  | some t =>
    have heligible : eligible g.taken (busyUnder maxQueries load) job = true ↔
        t ∉ g.taken ∧ busyUnder maxQueries load t.connector = false :=
      eligible_iff_of_target htarget
    refine obeys_query trivial fun isTaken htaken => ?_
    cases isTaken with
    | true =>
      have hmem : t ∈ g.taken := of_decide_eq_true htaken.symm
      exact ⟨hknown, .deferred (Bool.eq_false_iff.2 fun h => (heligible.1 h).1 hmem)⟩
    | false =>
      have hmem : t ∉ g.taken := of_decide_eq_false htaken.symm
      refine obeys_andThen (choosing_lookUpBusy hknown t.connector) ?_
      rintro g ⟨busy, known'⟩ ⟨rfl, hbusy, hknown'⟩
      cases busy with
      | true =>
        refine ⟨hknown', .deferred (Bool.eq_false_iff.2 fun h => ?_)⟩
        exact absurd ((heligible.1 h).2.symm.trans hbusy.symm) Bool.false_ne_true
      | false =>
        have hcan := heligible.2 ⟨hmem, hbusy.symm⟩
        have hfree : free taken job = true :=
          free_eq_true_iff.2 ⟨t, htarget, fun h => hmem (hgrown t h)⟩
        obtain ⟨hcandidate, hnew⟩ := hfits hfree
        obtain ⟨hstored, hopen⟩ := (mem_candidates hnamed).1 hcandidate
        refine obeys_query trivial fun permit hpermit => ?_
        cases permit with
        | false =>
          have hnone : ¬ 0 < g.permits := of_decide_eq_false hpermit.symm
          exact ⟨hknown', .exhausted (Nat.eq_zero_of_not_pos hnone)⟩
        | true =>
          have hsome : 0 < g.permits := of_decide_eq_true hpermit.symm
          refine obeys_query trivial fun claimed hclaim => ?_
          obtain rfl : claimed = true := hclaim.trans (decide_eq_true hmem)
          refine obeys_andThen (choosing_enqueue hkept List.mem_cons_self htarget hfree hnew
            hstored hopen) ?_
          rintro g' _ ⟨j, rfl, hid, hj, hg', hready⟩
          rw [hg']
          refine obeys_query ⟨hid ▸ hnew, List.mem_cons_self, hj, hready⟩ fun _ _ => ⟨hknown', ?_⟩
          have hpermits : g.permits = (g.permits - 1) + 1 := (Nat.sub_add_cancel hsome).symm
          have hchosen : Chosen (busyUnder maxQueries load) job g .dispatched _ :=
            .dispatched htarget hcan hpermits
          rwa [← hid] at hchosen

theorem chosen_cons_of_not {busy : String → Bool} {taken : List Target} {n : Nat}
    {jobs : List ImportJob} (h : eligible taken busy job = false) :
    chosen taken busy n (job :: jobs) = chosen taken busy n jobs := by
  rw [chosen, dispatchable_cons_of_not h, chosen]

theorem chosen_cons {busy : String → Bool} {taken : List Target} {n : Nat} {jobs : List ImportJob}
    {t : Target} (htarget : Target.ofJob? job = some t) (h : eligible taken busy job = true) :
    chosen taken busy (n + 1) (job :: jobs) = job :: chosen (t :: taken) busy n jobs := by
  rw [chosen, dispatchable_cons htarget h, List.take_succ_cons, chosen]

/-- Of the candidates those are let run that are chosen, in their order. -/
theorem choosing_dispatch {jobs : List ImportJob} (hnamed : Named m)
    (hknown : Right (busyUnder maxQueries load) known) (hgrown : ∀ t ∈ taken, t ∈ g.taken)
    (hkept : g.kept = none) (hfits : ∀ job ∈ jobs, Fitting m taken g.spawned job)
    (hnodup : ((jobs.filter (free taken)).map (·.id)).Nodup) :
    Obeys (choosing m taken load)
      (fun g' n => g'.kept = none ∧ g'.spawned = g.spawned ++
          (chosen g.taken (busyUnder maxQueries load) g.permits jobs).map (·.id) ∧
        n = (chosen g.taken (busyUnder maxQueries load) g.permits jobs).length)
      g (dispatch maxQueries known jobs) := by
  induction jobs generalizing known g with
  | nil =>
    have hnone : chosen g.taken (busyUnder maxQueries load) g.permits [] = [] := List.take_nil
    refine ⟨hkept, ?_, ?_⟩
    · rw [hnone, List.map_nil, List.append_nil]
    · rw [hnone]
      rfl
  | cons job jobs ih =>
    rw [List.forall_mem_cons] at hfits
    have hnodup' : ((jobs.filter (free taken)).map (·.id)).Nodup :=
      hnodup.sublist (((List.sublist_cons_self job jobs).filter _).map _)
    refine obeys_andThen (choosing_consider hnamed hknown hgrown hkept hfits.1) ?_
    rintro g' ⟨verdict, known'⟩ ⟨hknown', hchosen⟩
    cases hchosen with
    | exhausted hpermits =>
      rw [hpermits]
      exact ⟨hkept, (List.append_nil _).symm, rfl⟩
    | deferred hineligible =>
      rw [chosen_cons_of_not hineligible]
      exact ih hknown' hgrown hkept hfits.2 hnodup'
    | @dispatched t n htarget heligible hpermits =>
      obtain ⟨t', ht', hfree, -⟩ := eligible_eq_true_iff.1 heligible
      have hfirst : free taken job = true :=
        free_eq_true_iff.2 ⟨t', ht', fun h => hfree (hgrown t' h)⟩
      -- no other candidate that can be let run has this name
      rw [List.filter_cons_of_pos hfirst, List.map_cons, List.nodup_cons] at hnodup
      have hnew : ∀ j ∈ jobs, Fitting m taken (g.spawned ++ [job.id]) j := by
        intro j hj hfree
        obtain ⟨hcandidate, hold⟩ := hfits.2 j hj hfree
        refine ⟨hcandidate, fun hmem => ?_⟩
        rcases List.mem_append.1 hmem with hmem | hmem
        · exact hold hmem
        · refine hnodup.1 (List.mem_map.2 ⟨j, List.mem_filter.2 ⟨hj, hfree⟩, ?_⟩)
          exact List.mem_singleton.1 hmem
      rw [hpermits, chosen_cons htarget heligible]
      refine obeys_andThen (ih hknown' (fun t ht => List.mem_cons_of_mem _ (hgrown t ht)) rfl hnew
        hnodup') ?_
      rintro g' more ⟨hkept', hspawned, rfl⟩
      exact ⟨hkept', by rw [hspawned, List.append_assoc]; rfl, rfl⟩

/-- A cycle lets those of the queue run that are chosen, first of the queued and then of the waiting
imports. -/
theorem choosing_cycle {permits : Nat} (hnamed : Named m) :
    Obeys (choosing m taken load)
      (fun g r => g.kept = none ∧
        g.spawned = (chosen taken (busyUnder maxQueries load) permits (candidates m)).map (·.id) ∧
        r = .ok (chosen taken (busyUnder maxQueries load) permits (candidates m)).length)
      { permits := permits, taken := taken } (cycle maxQueries) := by
  refine obeys_query ⟨rfl, rfl, rfl⟩ ?_
  rintro _ ⟨queued, rfl, hqueued⟩
  refine obeys_query ⟨rfl, rfl, rfl⟩ ?_
  rintro _ ⟨waiting, rfl, hwaiting⟩
  -- the listings may differ from what was stored in imports whose targets are taken
  have hfree : (((queued ++ waiting).filterMap Job.import?).filter (free taken)) =
      (candidates m).filter (free taken) := by
    rw [List.filterMap_append, List.filter_append, hqueued, hwaiting, ← List.filter_append,
      candidates_eq]
  have hfits : ∀ job ∈ (queued ++ waiting).filterMap Job.import?, Fitting m taken [] job := by
    intro job hjob hjobFree
    have hmem := List.mem_filter.2 ⟨hjob, hjobFree⟩
    rw [hfree] at hmem
    exact ⟨(List.mem_filter.1 hmem).1, List.not_mem_nil⟩
  have hnodup : (((queued ++ waiting).filterMap Job.import?).filter (free taken) |>.map
      (·.id)).Nodup := by
    rw [hfree]
    exact (candidates_nodup hnamed).sublist (List.filter_sublist.map _)
  have hchosen : ∀ busy, chosen taken busy permits ((queued ++ waiting).filterMap Job.import?) =
      chosen taken busy permits (candidates m) := fun busy => by
    rw [chosen, ← dispatchable_filter_free, hfree, dispatchable_filter_free, chosen]
  have hdispatch : Obeys (choosing m taken load) _ { permits := permits, taken := taken }
      (dispatch maxQueries [] ((queued ++ waiting).filterMap Job.import?)) :=
    choosing_dispatch hnamed nofun (fun _ ht => ht) rfl hfits hnodup
  simp only [hchosen, List.nil_append] at hdispatch
  refine obeys_andThen hdispatch ?_
  rintro g _ ⟨hkept, hspawned, rfl⟩
  exact ⟨hkept, hspawned, rfl⟩

end

end BulkImport.Scheduler
