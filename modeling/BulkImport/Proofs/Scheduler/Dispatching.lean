import BulkImport.Proofs.Scheduler.Selection
import BulkImport.Proofs.Scheduler.Once

/-!
# What one cycle lets run

One cycle goes from its beginning to its end (`OneCycle`); the imports that run meanwhile go on, but
none of them ends, and no other cycle begins.  Each of them keeps to its own job, whose target is
taken (`Confined`), so that nothing that is free to be let run changes but by the cycle
(`Selecting`, `Selecting.turn`).

Such a cycle comes to its end, and it lets exactly those imports run that are chosen from the queue
(`cycle_dispatches`).  Each of them is stored as a queued one when it is let run, and no other job
is stored by the cycle.
-/

namespace BulkImport.Scheduler

open BulkImport.Job BulkImport.Program
open BulkImport.Import (SameTarget)
open BulkImport.Store (eq_of_precedes)

/-! ### One cycle -/

/-- Nothing begins in the turn and nothing ends, and what is counted on a connector is its load. -/
def Event.Within (load : String → Except Database.Error Nat) : Event → Prop
  | .begun | .ended _ | .finished _ _ => False
  | .asked (.countQueries c) running => running = load c
  | .asked _ _ | .worked _ _ _ => True

/-- One cycle from its beginning to its end, with what comes of it. -/
inductive OneCycle (im : Import.Importer) (maxQueries : Nat)
    (load : String → Except Database.Error Nat) (s : System) :
    List Move → Except Store.Error Nat → System → Prop where
  | intro {s₁ s₂ s' : System} {moves : List Move} {r : Except Store.Error Nat}
      (hbegin : Step im maxQueries s .begun s₁) (hexec : Execution im maxQueries s₁ moves s₂)
      (hwithin : ∀ m ∈ moves, m.event.Within load) (hend : Step im maxQueries s₂ (.ended r) s') :
      OneCycle im maxQueries load s (⟨s, .begun, s₁⟩ :: (moves ++ [⟨s₂, .ended r, s'⟩])) r s'

/-- A cycle that is alone under way can come to its end. -/
theorem exists_end (im : Import.Importer) (maxQueries : Nat)
    (load : String → Except Database.Error Nat) {s : System} {rest : Remainder}
    (hcycles : s.cycles = [rest]) :
    ∃ moves s₂ r s', Execution im maxQueries s moves s₂ ∧ (∀ m ∈ moves, m.event.Within load) ∧
      Step im maxQueries s₂ (.ended r) s' := by
  induction rest generalizing s with
  | done r =>
    exact ⟨[], s, r, _, .nil s, List.forall_mem_nil _, @Step.leave im maxQueries s [] [] r hcycles⟩
  | ask q next ih =>
    have hwithin : ∃ sample, (Event.asked q (s.answer im 0 sample q).1).Within load := by
      cases q with
      | countQueries c => exact ⟨load c, rfl⟩
      | list _ | isTaken _ | takePermit | returnPermit | claim _ | release _ | store _
          | spawn _ _ => exact ⟨.ok 0, trivial⟩
    obtain ⟨sample, hwithin⟩ := hwithin
    obtain ⟨moves, s₂, r, s', hexec, hmoves, hend⟩ := ih (s.answer im 0 sample q).1 (s :=
      { (s.answer im 0 sample q).2 with cycles := [next (s.answer im 0 sample q).1] }) rfl
    exact ⟨_, s₂, r, s', .cons (@Step.ask im maxQueries s [] [] q next 0 sample hcycles) hexec,
      List.forall_mem_cons.2 ⟨hwithin, hmoves⟩, hend⟩

theorem exists_oneCycle (im : Import.Importer) (maxQueries : Nat)
    (load : String → Except Database.Error Nat) {s : System} (hnone : s.cycles = []) :
    ∃ moves r s', OneCycle im maxQueries load s moves r s' := by
  have hcycles : s.cycles ++ [cycle maxQueries] = [cycle maxQueries] := by
    rw [hnone, List.nil_append]
  obtain ⟨moves, s₂, r, s', hexec, hwithin, hend⟩ := exists_end im maxQueries load
    (s := { s with cycles := s.cycles ++ [cycle maxQueries] }) hcycles
  exact ⟨_, r, s', .intro (.begin s) hexec hwithin hend⟩

/-! ### Imports that run meanwhile -/

/-- An import that runs records nothing but its own job, and what is stored under its name is not
free to be let run. -/
structure Confined (m : Store.Memory) (taken : List Target) (r : Run) : Prop where
  keeps : ∃ ended, Obeys (recording r.job) (fun _ _ => True) ended r.rest
  own : free taken r.job = false
  stored : ¬ Awaits m taken r.job.id

theorem free_mono {taken taken' : List Target} {job : ImportJob} (h : ∀ t ∈ taken, t ∈ taken')
    (hfree : free taken' job = true) : free taken job = true := by
  obtain ⟨t, ht, hnot⟩ := free_eq_true_iff.1 hfree
  exact free_eq_true_iff.2 ⟨t, ht, fun hmem => hnot (h t hmem)⟩

theorem Awaits.mono {m : Store.Memory} {taken taken' : List Target} {id : String}
    (h : ∀ t ∈ taken, t ∈ taken') (hawaits : Awaits m taken' id) : Awaits m taken id := by
  obtain ⟨job, hjob, hfree⟩ := hawaits
  exact ⟨job, hjob, free_mono h hfree⟩

theorem not_free_of_mem {taken : List Target} {job : ImportJob} {t : Target}
    (htarget : Target.ofJob? job = some t) (ht : t ∈ taken) : free taken job = false := by
  simp [free, htarget, ht]

theorem find?_replace_import (m : Store.Memory) (job : ImportJob) (id : String) :
    (m.replace (.importing job)).find? id =
      if id = job.id then some (.importing job) else m.find? id :=
  Store.Memory.find?_replace m _ id

namespace Confined

variable {m : Store.Memory} {taken taken' : List Target} {r : Run}

theorem mono (h : ∀ t ∈ taken, t ∈ taken') (hr : Confined m taken r) : Confined m taken' r :=
  ⟨hr.keeps, Bool.eq_false_iff.2 fun hfree => Bool.eq_false_iff.1 hr.own (free_mono h hfree),
    fun hawaits => hr.stored (hawaits.mono h)⟩

/-- What is stored under another name, or is not free to be let run, is none of its concern. -/
theorem replace {written : ImportJob} (hr : Confined m taken r)
    (hwritten : r.job.id ≠ written.id ∨ free taken written = false) :
    Confined (m.replace (.importing written)) taken r := by
  refine ⟨hr.keeps, hr.own, ?_⟩
  rintro ⟨job, hjob, hfree⟩
  rw [find?_replace_import] at hjob
  split at hjob
  · next hid =>
    cases hjob
    rw [hwritten.resolve_left (· hid)] at hfree
    cases hfree
  · exact hr.stored ⟨job, hjob, hfree⟩

/-- So does an import that begins to run, which is stored as it was handed over. -/
theorem spawned (im : Import.Importer) {job : ImportJob} (number : Nat) (t : Target)
    (hfind : m.find? job.id = some (.importing job)) (hopen : job.status.isFinal = false)
    (hown : free taken job = false) :
    Confined m taken { number, job, target := t, rest := im.run job } := by
  refine ⟨⟨false, (obeys_run im hopen).imp fun _ _ _ => trivial⟩, hown, ?_⟩
  rintro ⟨stored, hstored, hfree⟩
  rw [hfind] at hstored
  cases hstored
  rw [hown] at hfree
  cases hfree

/-- A question of an import that runs leaves the store alone, or has its job stored again. -/
theorem asked {q : Import.Question} {next : Import.Answer q → Import.Action ImportJob}
    (hr : Confined m taken r) (hrest : r.rest = .ask q next) (now : Int64) (a : Import.Answer q) :
    Confined m taken { r with rest := next a } ∧
      (System.noted now q m = m ∨ ∃ written : ImportJob,
        System.noted now q m = m.replace (.importing written) ∧ written.id = r.job.id ∧
          free taken written = false) := by
  obtain ⟨ended, hobeys⟩ := hr.keeps
  rw [hrest] at hobeys
  obtain ⟨hallows, hnext⟩ := hobeys
  refine ⟨⟨⟨_, hnext a trivial⟩, hr.own, hr.stored⟩, ?_⟩
  cases q with
  | record j =>
    obtain ⟨-, hsame⟩ := hallows
    refine .inr ⟨{ j with updatedAt := now }, rfl, hsame.id, ?_⟩
    have htarget : Target.ofJob? { j with updatedAt := now } = Target.ofJob? r.job :=
      ofJob?_congr ⟨hsame.id, hsame.connector, hsame.table⟩
    rw [free, htarget]
    exact hr.own
  | connect _ | execute _ _ | executeAll _ _ | fetchInteger _ _ | fetchTexts _ _ | inspect _ _
      | now => exact .inl rfl

end Confined

/-- Where the stored imports are accounted for, every import that runs keeps to its own job. -/
theorem Accounted.confined {s : System} {cs : List Underway} {ids : List String}
    (h : Accounted s cs ids) : ∀ r ∈ s.state.runs, Confined s.memory s.state.taken r := by
  intro r hr
  have hrun := h.running r hr
  have htaken : r.target ∈ s.state.taken :=
    (h.orderly.guarded.mem_iff r.target).2 (List.mem_append_left _ (List.mem_map_of_mem hr))
  obtain ⟨stored, -, -, hobeys⟩ := hrun.stored
  refine ⟨⟨_, hobeys.imp fun _ _ _ => trivial⟩, not_free_of_mem hrun.target htaken, ?_⟩
  rintro ⟨job, hjob, hfree⟩
  rw [not_free_of_mem (hrun.ofJob? hjob) htaken] at hfree
  cases hfree

/-! ### The cycle under way -/

/-- The names of the imports that run. -/
def System.running (s : System) : List String := s.state.runs.map (·.job.id)

/-- A cycle is under way that began in the first system, and has come so far. -/
structure Selecting (load : String → Except Database.Error Nat)
    (fits : Choice → Except Store.Error Nat → Prop) (s₀ s : System) (rest : Remainder)
    (g : Choice) : Prop where
  cycles : s.cycles = [rest]
  obeys : Obeys (choosing s₀.memory s₀.state.taken load) fits g rest
  permits : s.state.permits = g.permits
  taken : s.state.taken = g.taken
  grown : ∀ t ∈ s₀.state.taken, t ∈ g.taken
  named : Named s.memory
  running : s.running = s₀.running ++ g.spawned
  confined : ∀ r ∈ s.state.runs, Confined s.memory g.taken r
  kept : ∀ job, g.kept = some job → s.memory.find? job.id = some (.importing job) ∧
    job.status = .queued ∧ Awaits s₀.memory s₀.state.taken job.id ∧ job.id ∉ g.spawned
  others : ∀ id, id ∉ s₀.running → id ∉ g.spawned → (∀ job, g.kept = some job → job.id ≠ id) →
    s.memory.find? id = s₀.memory.find? id

/-- The cycle has stored the import of this name or let it run. -/
def Choice.Touched (g : Choice) (id : String) : Prop :=
  id ∈ g.spawned ∨ ∃ job, g.kept = some job ∧ job.id = id

/-- What is done about the queue in turns: imports are let run as they are stored, and as queued
ones, and no others are stored by the cycle. -/
structure Deeds (g : Choice) (moves : List Move) (g' : Choice) : Prop where
  spawned : g'.spawned = g.spawned ++ handed moves
  touched : ∀ id, g.Touched id → g'.Touched id
  stored : ∀ mv ∈ moves, ∀ job a, mv.event = .asked (.store job) a → g'.Touched job.id
  ready : ∀ mv ∈ moves, ∀ job t a, mv.event = .asked (.spawn job t) a →
    mv.before.memory.find? job.id = some (.importing job) ∧ job.status = .queued ∧
      Target.ofJob? job = some t

namespace Deeds

variable {g g' g'' : Choice} {moves later : List Move} {mv : Move}

theorem nil (g : Choice) : Deeds g [] g :=
  ⟨(List.append_nil _).symm, fun _ hid => hid, List.forall_mem_nil _, List.forall_mem_nil _⟩

theorem append (h : Deeds g moves g') (hlater : Deeds g' later g'') :
    Deeds g (moves ++ later) g'' where
  spawned := by
    rw [hlater.spawned, h.spawned, List.append_assoc]
    exact congrArg _ List.filterMap_append.symm
  touched id hid := hlater.touched id (h.touched id hid)
  stored := List.forall_mem_append.2
    ⟨fun mv hmv job a hevent => hlater.touched job.id (h.stored mv hmv job a hevent), hlater.stored⟩
  ready := List.forall_mem_append.2 ⟨h.ready, hlater.ready⟩

/-- A turn in which the cycle neither stores nor spawns an import does nothing about the queue. -/
theorem idle (h : mv.event.touched? = none) (hkept : g'.kept = g.kept)
    (hspawned : g'.spawned = g.spawned) : Deeds g [mv] g' := by
  have hhanded : handed [mv] = [] := by
    obtain ⟨s, e, s'⟩ := mv
    cases e with
    | asked q a => cases q <;> first | rfl | cases h
    | begun | ended _ | worked _ _ _ | finished _ _ => rfl
  refine ⟨?_, fun id hid => ?_, ?_, ?_⟩
  · rw [hhanded, List.append_nil, hspawned]
  · unfold Choice.Touched
    rwa [hkept, hspawned]
  · rw [List.forall_mem_singleton]
    intro job a hevent
    rw [hevent] at h
    cases h
  · rw [List.forall_mem_singleton]
    intro job t a hevent
    rw [hevent] at h
    cases h

/-- A turn in which the cycle stores an import. -/
theorem store {s s' : System} {job stored : ImportJob} {a : Except Store.Error ImportJob}
    (hkept : g.kept = none) (hname : stored.id = job.id) :
    Deeds g [⟨s, .asked (.store job) a, s'⟩] { g with kept := some stored } := by
  refine ⟨(List.append_nil _).symm, fun id hid => hid.imp_right ?_, ?_, ?_⟩
  · rintro ⟨k, hk, -⟩
    rw [hkept] at hk
    cases hk
  · rw [List.forall_mem_singleton]
    rintro j a ⟨⟩
    exact .inr ⟨stored, rfl, hname⟩
  · rw [List.forall_mem_singleton]
    rintro j t a ⟨⟩

/-- A turn in which the cycle lets an import run. -/
theorem spawn {s s' : System} {job : ImportJob} {t : Target}
    (hkept : ∀ k, g.kept = some k → k = job)
    (hready : s.memory.find? job.id = some (.importing job) ∧ job.status = .queued ∧
      Target.ofJob? job = some t) :
    Deeds g [⟨s, .asked (.spawn job t) (), s'⟩]
      { g with kept := none, spawned := g.spawned ++ [job.id] } := by
  refine ⟨rfl, fun id hid => .inl ?_, ?_, ?_⟩
  · rcases hid with hid | ⟨k, hk, rfl⟩
    · exact List.mem_append_left _ hid
    · rw [hkept k hk]
      exact List.mem_append_right _ List.mem_cons_self
  · rw [List.forall_mem_singleton]
    rintro j a ⟨⟩
  · rw [List.forall_mem_singleton]
    rintro j t' a ⟨⟩
    exact hready

end Deeds

namespace Selecting

variable {im : Import.Importer} {maxQueries : Nat} {load : String → Except Database.Error Nat}
  {fits : Choice → Except Store.Error Nat → Prop} {s₀ s s' : System} {rest rest' : Remainder}
  {g g' : Choice}

theorem initial (hnamed : Named s.memory) (hnone : s.cycles = [])
    (hrunning : ∀ r ∈ s.state.runs, Confined s.memory s.state.taken r)
    (hobeys : Obeys (choosing s.memory s.state.taken load) fits
      { permits := s.state.permits, taken := s.state.taken } (cycle maxQueries)) :
    Selecting load fits s { s with cycles := s.cycles ++ [cycle maxQueries] } (cycle maxQueries)
      { permits := s.state.permits, taken := s.state.taken } where
  cycles := by rw [hnone, List.nil_append]
  obeys := hobeys
  permits := rfl
  taken := rfl
  grown _ ht := ht
  named := hnamed
  running := (List.append_nil _).symm
  confined := hrunning
  kept _ hkept := nomatch hkept
  others _ _ _ _ := rfl

/-- Imports that run keep away from what is free to be let run. -/
theorem not_running (hrunning : ∀ r ∈ s₀.state.runs, Confined s₀.memory s₀.state.taken r)
    {id : String} (hawaits : Awaits s₀.memory s₀.state.taken id) : id ∉ s₀.running := by
  intro hid
  obtain ⟨r, hr, rfl⟩ := List.mem_map.1 hid
  exact (hrunning r hr).stored hawaits

/-- Before anything is let run, the imports whose targets are free are stored as they were. -/
theorem listing (hrunning : ∀ r ∈ s₀.state.runs, Confined s₀.memory s₀.state.taken r)
    (hnamed : Named s₀.memory) (h : Selecting load fits s₀ s rest g) (hkept : g.kept = none)
    (hspawned : g.spawned = []) (htaken : g.taken = s₀.state.taken) (status : Status) :
    (lined s.memory status).filter (free s₀.state.taken) =
      (lined s₀.memory status).filter (free s₀.state.taken) := by
  refine eq_of_precedes (f := Job.importing) ((lined_lined h.named status).sorted.filter _)
    ((lined_lined hnamed status).sorted.filter _) fun job => ?_
  rw [List.mem_filter, List.mem_filter, and_congr_left_iff]
  intro hfree
  rw [(lined_lined h.named status).mem_iff, (lined_lined hnamed status).mem_iff]
  by_cases hid : job.id ∈ s₀.running
  · -- neither is the import of this name listed now, nor was it then
    have hnow : s.memory.find? job.id ≠ some (.importing job) := fun hfind => by
      have hmem : job.id ∈ s.running := by
        rw [h.running]
        exact List.mem_append_left _ hid
      obtain ⟨r, hr, hname⟩ := List.mem_map.1 hmem
      refine (h.confined r hr).stored ?_
      rw [hname, htaken]
      exact ⟨job, hfind, hfree⟩
    have hthen : s₀.memory.find? job.id ≠ some (.importing job) := fun hfind =>
      not_running hrunning ⟨job, hfind, hfree⟩ hid
    simp [hnow, hthen]
  · rw [h.others job.id hid (by simp [hspawned]) (by simp [hkept])]

/-- The cycle is told what it can expect. -/
theorem expects (hrunning : ∀ r ∈ s₀.state.runs, Confined s₀.memory s₀.state.taken r)
    (hnamed : Named s₀.memory) {q : Question} {next : Answer q → Remainder}
    (h : Selecting load fits s₀ s (.ask q next) g) (now : Int64)
    {sample : Except Database.Error Nat}
    (hwithin : (Event.asked q (s.answer im now sample q).1).Within load) :
    (choosing s₀.memory s₀.state.taken load).expects g q (s.answer im now sample q).1 := by
  have hallows := h.obeys.1
  cases q with
  | list status =>
    obtain ⟨hkept, hspawned, htaken⟩ := hallows
    exact ⟨_, rfl, h.listing hrunning hnamed hkept hspawned htaken status⟩
  | isTaken t =>
    show decide (t ∈ s.state.taken) = decide (t ∈ g.taken)
    rw [h.taken]
  | countQueries c => exact hwithin
  | takePermit =>
    show s.state.takePermit.1 = decide (0 < g.permits)
    rw [← h.permits]
    unfold State.takePermit
    split
    · next hnone => simp [hnone]
    · next hsome => simp [hsome]
  | claim t =>
    show (s.state.claim t).1 = decide (t ∉ g.taken)
    rw [← h.taken]
    unfold State.claim
    split
    · next ht => simp [ht]
    · next ht => simp [ht]
  | store job => exact ⟨_, rfl, ⟨rfl, rfl, rfl⟩, rfl⟩
  | returnPermit | release _ | spawn _ _ => trivial

/-- The cycle is told something by which neither the stored jobs change nor what it did about the
queue. -/
theorem told (h : Selecting load fits s₀ s rest g) (hcycles : s'.cycles = [rest'])
    (hobeys : Obeys (choosing s₀.memory s₀.state.taken load) fits g' rest')
    (hpermits : s'.state.permits = g'.permits) (htaken : s'.state.taken = g'.taken)
    (hmemory : s'.memory = s.memory) (hruns : s'.state.runs = s.state.runs)
    (hgrown : ∀ t ∈ g.taken, t ∈ g'.taken) (hkept : g'.kept = g.kept)
    (hspawned : g'.spawned = g.spawned) : Selecting load fits s₀ s' rest' g' where
  cycles := hcycles
  obeys := hobeys
  permits := hpermits
  taken := htaken
  grown t ht := hgrown t (h.grown t ht)
  named := hmemory ▸ h.named
  running := by
    rw [System.running, hruns, hspawned]
    exact h.running
  confined := by
    rw [hmemory, hruns]
    exact fun r hr => (h.confined r hr).mono hgrown
  kept := by
    rw [hmemory, hkept, hspawned]
    exact h.kept
  others := by
    rw [hmemory, hkept, hspawned]
    exact h.others

/-- The cycle stores an import. -/
theorem store (hrunning : ∀ r ∈ s₀.state.runs, Confined s₀.memory s₀.state.taken r)
    {job stored : ImportJob} {next : Except Store.Error ImportJob → Remainder}
    (h : Selecting load fits s₀ s (.ask (.store job) next) g) (hname : stored.id = job.id)
    (hstatus : stored.status = job.status)
    (hobeys : Obeys (choosing s₀.memory s₀.state.taken load) fits { g with kept := some stored }
      (next (.ok stored))) :
    Selecting load fits s₀
      { s with memory := s.memory.replace (.importing stored), cycles := [next (.ok stored)] }
      (next (.ok stored)) { g with kept := some stored } := by
  obtain ⟨hkept, hqueued, hawaits, hnew, -⟩ := h.obeys.1
  rw [← hname] at hawaits hnew
  refine ⟨rfl, hobeys, h.permits, h.taken, h.grown, h.named.replace _, h.running, fun r hr => ?_,
    ?_, fun id hid hold hother => ?_⟩
  · refine (h.confined r hr).replace (.inl fun hrun => ?_)
    have hmem : r.job.id ∈ s.running := List.mem_map_of_mem hr
    rw [h.running, List.mem_append, hrun] at hmem
    exact hmem.elim (not_running hrunning hawaits) hnew
  · rintro _ ⟨⟩
    refine ⟨?_, hstatus.trans hqueued, hawaits, hnew⟩
    rw [find?_replace_import, if_pos rfl]
  · have hne : id ≠ stored.id := fun heq => hother stored rfl heq.symm
    rw [find?_replace_import, if_neg hne]
    exact h.others id hid hold (by simp [hkept])

/-- The cycle lets an import run only as it is stored, and as a queued one. -/
theorem ready (hrunning : ∀ r ∈ s₀.state.runs, Confined s₀.memory s₀.state.taken r)
    {job : ImportJob} {t : Target} {next : Unit → Remainder}
    (h : Selecting load fits s₀ s (.ask (.spawn job t) next) g) :
    s.memory.find? job.id = some (.importing job) ∧ job.status = .queued ∧
      Target.ofJob? job = some t := by
  obtain ⟨hnew, -, htarget, hkept | ⟨hkept, hqueued, hstored, hfree⟩⟩ := h.obeys.1
  · obtain ⟨hfind, hqueued, -, -⟩ := h.kept job hkept
    exact ⟨hfind, hqueued, htarget⟩
  · refine ⟨?_, hqueued, htarget⟩
    rw [h.others job.id (not_running hrunning ⟨job, hstored, hfree⟩) hnew (by simp [hkept])]
    exact hstored

/-- What the cycle has stored and not let run yet is what it lets run next. -/
theorem eq_of_kept {job : ImportJob} {t : Target} {next : Unit → Remainder}
    (h : Selecting load fits s₀ s (.ask (.spawn job t) next) g) :
    ∀ k, g.kept = some k → k = job := by
  intro k hk
  obtain ⟨-, -, -, hkept | ⟨hkept, -⟩⟩ := h.obeys.1
  · exact Option.some.inj (hk.symm.trans hkept)
  · rw [hkept] at hk
    cases hk

/-- The cycle lets an import run. -/
theorem spawn (hrunning : ∀ r ∈ s₀.state.runs, Confined s₀.memory s₀.state.taken r)
    {job : ImportJob} {t : Target} {next : Unit → Remainder}
    (h : Selecting load fits s₀ s (.ask (.spawn job t) next) g) :
    Selecting load fits s₀ { s with state := s.state.spawn im job t, cycles := [next ()] } (next ())
      { g with kept := none, spawned := g.spawned ++ [job.id] } := by
  obtain ⟨hfind, hqueued, htarget⟩ := h.ready hrunning
  obtain ⟨⟨-, ht, -⟩, hnext⟩ := h.obeys
  have hown : free g.taken job = false := not_free_of_mem htarget ht
  refine ⟨rfl, hnext () trivial, h.permits, h.taken, h.grown, h.named, ?_, fun r hr => ?_,
    fun _ hnone => ?_, fun id hid hold _ => ?_⟩
  · rw [← List.append_assoc, ← h.running]
    exact List.map_append
  · rcases List.mem_append.1 hr with hr | hr
    · exact h.confined r hr
    · obtain rfl := List.mem_singleton.1 hr
      exact .spawned im s.state.spawned t hfind (isFinal_of_open (.inl hqueued)) hown
  · cases hnone
  · obtain ⟨hold, hne⟩ := not_or.1 (mt List.mem_append.2 hold)
    refine h.others id hid hold fun k hk heq => hne (List.mem_singleton.2 ?_)
    rw [← heq, h.eq_of_kept k hk]

/-- An import that runs is answered, and may be recorded. -/
theorem work (hrunning : ∀ r ∈ s₀.state.runs, Confined s₀.memory s₀.state.taken r)
    {earlier later : List Run} {r : Run} {q : Import.Question}
    {next : Import.Answer q → Import.Action ImportJob} (now : Int64) (a : Import.Answer q)
    (hruns : s.state.runs = earlier ++ r :: later) (hrest : r.rest = .ask q next)
    (h : Selecting load fits s₀ s rest g) :
    Selecting load fits s₀
      { s with
        memory := System.noted now q s.memory
        state := { s.state with runs := earlier ++ { r with rest := next a } :: later } }
      rest g := by
  have hr : r ∈ s.state.runs := hruns ▸ List.mem_append_cons_self
  obtain ⟨hasked, hmemory⟩ := (h.confined r hr).asked hrest now a
  have hmem : r.job.id ∈ s₀.running ++ g.spawned := h.running ▸ List.mem_map_of_mem hr
  have hapart : ∀ id, id ∉ s₀.running → id ∉ g.spawned →
      (System.noted now q s.memory).find? id = s.memory.find? id := by
    intro id hid hold
    rcases hmemory with hsame | ⟨written, hwritten, hname, -⟩
    · rw [hsame]
    · rw [hwritten, find?_replace_import, if_neg]
      rintro rfl
      rw [hname] at hid hold
      exact (List.mem_append.1 hmem).elim hid hold
  have hconfined : ∀ r', Confined s.memory g.taken r' →
      Confined (System.noted now q s.memory) g.taken r' := by
    intro r' hr'
    rcases hmemory with hsame | ⟨written, hwritten, -, hfree⟩
    · rwa [hsame]
    · rw [hwritten]
      exact hr'.replace (.inr hfree)
  refine ⟨h.cycles, h.obeys, h.permits, h.taken, h.grown, ?_, ?_, ?_, fun job hjob => ?_,
    fun id hid hold hother => (hapart id hid hold).trans (h.others id hid hold hother)⟩
  · rcases hmemory with hsame | ⟨written, hwritten, -⟩
    · rw [hsame]
      exact h.named
    · rw [hwritten]
      exact h.named.replace _
  · rw [← h.running, System.running, System.running, hruns, List.map_append, List.map_append]
    rfl
  · have hothers : ∀ r' ∈ earlier ++ r :: later,
        Confined (System.noted now q s.memory) g.taken r' :=
      fun r' hr' => hconfined r' (h.confined r' (hruns ▸ hr'))
    exact forall_mem_replace hothers (hconfined _ hasked)
  · obtain ⟨hfind, hqueued, hawaits, hnew⟩ := h.kept job hjob
    exact ⟨(hapart _ (not_running hrunning hawaits) hnew).trans hfind, hqueued, hawaits, hnew⟩

/-- The cycle is told something by which nothing changes. -/
theorem heard {q : Question} {next : Answer q → Remainder} {a : Answer q}
    (h : Selecting load fits s₀ s (.ask q next) g)
    (hexpects : (choosing s₀.memory s₀.state.taken load).expects g q a)
    (hsame : (choosing s₀.memory s₀.state.taken load).next g q a = g) :
    Selecting load fits s₀ { s with cycles := [next a] } (next a) g := by
  have hnext := h.obeys.2 a hexpects
  rw [hsame] at hnext
  exact h.told rfl hnext h.permits h.taken rfl rfl (fun _ ht => ht) rfl rfl

/-- The cycle takes a permit, if there is one. -/
theorem takePermit {next : Bool → Remainder}
    (h : Selecting load fits s₀ s (.ask .takePermit next) g)
    (hexpects : (choosing s₀.memory s₀.state.taken load).expects g .takePermit
      s.state.takePermit.1) :
    ∃ g', Selecting load fits s₀
        { s with state := s.state.takePermit.2, cycles := [next s.state.takePermit.1] }
        (next s.state.takePermit.1) g' ∧ g'.kept = g.kept ∧ g'.spawned = g.spawned := by
  cases hpermits : s.state.permits with
  | zero =>
    have hnone : s.state.takePermit = (false, s.state) := by simp [State.takePermit, hpermits]
    rw [hnone] at hexpects ⊢
    exact ⟨g, h.heard hexpects rfl, rfl, rfl⟩
  | succ n =>
    have hsome : s.state.takePermit = (true, { s.state with permits := n }) := by
      simp [State.takePermit, hpermits]
    have hleft : n = g.permits - 1 := by
      rw [← h.permits, hpermits]
      rfl
    rw [hsome] at hexpects ⊢
    exact ⟨_, h.told rfl (h.obeys.2 true hexpects) hleft h.taken rfl rfl (fun _ ht => ht) rfl rfl,
      rfl, rfl⟩

/-- The cycle takes a target, if it is free. -/
theorem claim {t : Target} {next : Bool → Remainder}
    (h : Selecting load fits s₀ s (.ask (.claim t) next) g)
    (hexpects : (choosing s₀.memory s₀.state.taken load).expects g (.claim t)
      (s.state.claim t).1) :
    ∃ g', Selecting load fits s₀
        { s with state := (s.state.claim t).2, cycles := [next (s.state.claim t).1] }
        (next (s.state.claim t).1) g' ∧ g'.kept = g.kept ∧ g'.spawned = g.spawned := by
  by_cases ht : t ∈ s.state.taken
  · have htaken : s.state.claim t = (false, s.state) := by simp [State.claim, ht]
    rw [htaken] at hexpects ⊢
    exact ⟨g, h.heard hexpects rfl, rfl, rfl⟩
  · have hclaimed : s.state.claim t = (true, { s.state with taken := t :: s.state.taken }) := by
      simp [State.claim, ht]
    rw [hclaimed] at hexpects ⊢
    exact ⟨_, h.told rfl (h.obeys.2 true hexpects) h.permits (congrArg (t :: ·) h.taken) rfl rfl
      (fun _ => List.mem_cons_of_mem t) rfl rfl, rfl, rfl⟩

/-- The cycle is answered. -/
theorem ask (hrunning : ∀ r ∈ s₀.state.runs, Confined s₀.memory s₀.state.taken r)
    (hnamed : Named s₀.memory) {q : Question} {next : Answer q → Remainder} (now : Int64)
    {sample : Except Database.Error Nat}
    (hwithin : (Event.asked q (s.answer im now sample q).1).Within load)
    (h : Selecting load fits s₀ s (.ask q next) g) :
    ∃ g', Selecting load fits s₀
        { (s.answer im now sample q).2 with cycles := [next (s.answer im now sample q).1] }
        (next (s.answer im now sample q).1) g' ∧
      ∀ s', Deeds g [⟨s, .asked q (s.answer im now sample q).1, s'⟩] g' := by
  have hexpects := h.expects hrunning hnamed now hwithin
  cases q with
  | list _ | isTaken _ | countQueries _ =>
    exact ⟨g, h.heard hexpects rfl, fun _ => .idle rfl rfl rfl⟩
  | takePermit =>
    obtain ⟨g', h', hkept, hspawned⟩ := h.takePermit hexpects
    exact ⟨g', h', fun _ => .idle rfl hkept hspawned⟩
  | claim t =>
    obtain ⟨g', h', hkept, hspawned⟩ := h.claim hexpects
    exact ⟨g', h', fun _ => .idle rfl hkept hspawned⟩
  | store job =>
    have hname : ({ job with updatedAt := now } : ImportJob).id = job.id := rfl
    exact ⟨_, h.store hrunning hname rfl (h.obeys.2 _ hexpects),
      fun _ => .store h.obeys.1.1 hname⟩
  | spawn job t => exact ⟨_, h.spawn hrunning, fun _ => .spawn h.eq_of_kept (h.ready hrunning)⟩
  | returnPermit | release _ => exact h.obeys.1.elim

/-- No other cycle is under way. -/
theorem alone {earlier later : List Remainder} (h : Selecting load fits s₀ s rest g)
    (hcycles : s.cycles = earlier ++ rest' :: later) :
    earlier = [] ∧ rest' = rest ∧ later = [] := by
  rw [h.cycles] at hcycles
  cases earlier with
  | nil =>
    obtain ⟨hrest, hlater⟩ := List.cons.inj hcycles
    exact ⟨rfl, hrest.symm, hlater.symm⟩
  | cons c earlier => simp at hcycles

/-- The cycle is still under way after a turn in which nothing begins and nothing ends. -/
theorem turn (hrunning : ∀ r ∈ s₀.state.runs, Confined s₀.memory s₀.state.taken r)
    (hnamed : Named s₀.memory) {e : Event} (hstep : Step im maxQueries s e s')
    (hwithin : e.Within load) (h : Selecting load fits s₀ s rest g) :
    ∃ rest' g', Selecting load fits s₀ s' rest' g' ∧ Deeds g [⟨s, e, s'⟩] g' := by
  cases hstep with
  | begin | leave _ | finish _ _ => exact hwithin.elim
  | ask now sample hcycles =>
    obtain ⟨rfl, rfl, rfl⟩ := h.alone hcycles
    obtain ⟨g', h', hdeed⟩ := h.ask hrunning hnamed now hwithin
    exact ⟨_, g', h', hdeed _⟩
  | work now a hruns hrest => exact ⟨_, _, h.work hrunning now a hruns hrest, .idle rfl rfl rfl⟩

theorem run (hrunning : ∀ r ∈ s₀.state.runs, Confined s₀.memory s₀.state.taken r)
    (hnamed : Named s₀.memory) {moves : List Move} (hexec : Execution im maxQueries s moves s')
    (hwithin : ∀ mv ∈ moves, mv.event.Within load) (h : Selecting load fits s₀ s rest g) :
    ∃ rest' g', Selecting load fits s₀ s' rest' g' ∧ Deeds g moves g' := by
  induction hexec generalizing rest g with
  | nil s => exact ⟨rest, g, h, .nil g⟩
  | cons hstep _ ih =>
    rw [List.forall_mem_cons] at hwithin
    obtain ⟨rest₁, g₁, h₁, hfirst⟩ := h.turn hrunning hnamed hstep hwithin.1
    obtain ⟨rest', g', h', hlater⟩ := ih hwithin.2 h₁
    exact ⟨rest', g', h', hfirst.append hlater⟩

end Selecting

/-- What is done about the queue from the beginning of a cycle to its end. -/
theorem OneCycle.deeds {im : Import.Importer} {maxQueries : Nat}
    {load : String → Except Database.Error Nat} {fits : Choice → Except Store.Error Nat → Prop}
    {s s' : System} {moves : List Move} {r : Except Store.Error Nat} (hnamed : Named s.memory)
    (hnone : s.cycles = []) (hrunning : ∀ r ∈ s.state.runs, Confined s.memory s.state.taken r)
    (hobeys : Obeys (choosing s.memory s.state.taken load) fits
      { permits := s.state.permits, taken := s.state.taken } (cycle maxQueries))
    (hcycle : OneCycle im maxQueries load s moves r s') :
    ∃ g, fits g r ∧ Deeds { permits := s.state.permits, taken := s.state.taken } moves g ∧
      ∀ id, id ∉ s.running → id ∉ g.spawned → (∀ job, g.kept = some job → job.id ≠ id) →
        s'.memory.find? id = s.memory.find? id := by
  obtain ⟨hbegin, hexec, hwithin, hend⟩ := hcycle
  cases hbegin
  obtain ⟨rest, g, h, hdeeds⟩ :=
    (Selecting.initial hnamed hnone hrunning hobeys).run hrunning hnamed hexec hwithin
  cases hend with
  | leave hcycles =>
    obtain ⟨-, rfl, -⟩ := h.alone hcycles
    exact ⟨g, h.obeys, Deeds.append (.idle rfl rfl rfl) (hdeeds.append (.idle rfl rfl rfl)),
      h.others⟩

/-! ### What it lets run -/

/-- A cycle that began in this system lets these imports run, in this order. -/
structure Dispatches (s : System) (jobs : List ImportJob) (moves : List Move)
    (r : Except Store.Error Nat) (s' : System) : Prop where
  result : r = .ok jobs.length
  handed : handed moves = jobs.map (·.id)
  /-- Each is handed over as it is stored then, and is queued. -/
  ready : ∀ mv ∈ moves, ∀ job t a, mv.event = .asked (.spawn job t) a →
    mv.before.memory.find? job.id = some (.importing job) ∧ job.status = .queued ∧
      Target.ofJob? job = some t
  /-- The cycle stores no others. -/
  stored : ∀ mv ∈ moves, ∀ job a, mv.event = .asked (.store job) a → job.id ∈ jobs.map (·.id)
  /-- All other jobs are stored as they were, but for those of the imports that ran before. -/
  kept : ∀ id, id ∉ jobs.map (·.id) → id ∉ s.running → s'.memory.find? id = s.memory.find? id

/-- Where nothing but the cycle lets imports run, and none of those that run ends meanwhile, the
cycle comes to its end and lets exactly those run that are chosen from the queue: of the queued and
then the waiting imports, each in the order of their creation and their names, those that have a
target that is not taken behind a connector that is not busy, the first one for each target, as many
as there are permits. -/
theorem cycle_dispatches (im : Import.Importer) (maxQueries : Nat)
    (load : String → Except Database.Error Nat) {s : System} (hnamed : Named s.memory)
    (hnone : s.cycles = []) (hrunning : ∀ r ∈ s.state.runs, Confined s.memory s.state.taken r) :
    ∃ queued waiting, Lined s.memory .queued queued ∧ Lined s.memory .waiting waiting ∧
      (∃ moves r s', OneCycle im maxQueries load s moves r s') ∧
      ∀ moves r s', OneCycle im maxQueries load s moves r s' →
        Dispatches s (chosen s.state.taken (busyUnder maxQueries load) s.state.permits
          (queued ++ waiting)) moves r s' := by
  refine ⟨_, _, lined_lined hnamed .queued, lined_lined hnamed .waiting,
    exists_oneCycle im maxQueries load hnone, ?_⟩
  rw [← candidates_eq]
  intro moves r s' hcycle
  obtain ⟨g, ⟨hkept, hspawned, rfl⟩, hdeeds, hothers⟩ :=
    hcycle.deeds hnamed hnone hrunning (choosing_cycle hnamed)
  have hhanded : handed moves = g.spawned := hdeeds.spawned.symm
  have hdone : ∀ id, g.Touched id → id ∈ g.spawned := by
    rintro id (hid | ⟨job, hjob, -⟩)
    · exact hid
    · rw [hkept] at hjob
      cases hjob
  refine ⟨rfl, hhanded.trans hspawned, hdeeds.ready, fun mv hmv job a hevent => ?_,
    fun id hid hran => ?_⟩
  · rw [← hspawned]
    exact hdone _ (hdeeds.stored mv hmv job a hevent)
  · rw [← hspawned] at hid
    exact hothers id hran hid (by simp [hkept])

/-- An import of the roads is waiting and another one is queued, and there are two permits. -/
def roadsTwiceAwaited : System where
  memory := queuedRoads.memory.replace (.importing { Import.roadsJob with id := "again" })
  state := { permits := 2 }

/-- The roads are let run once: by the import that is queued. -/
theorem roads_let_run_once :
    (Named roadsTwiceAwaited.memory ∧ roadsTwiceAwaited.cycles = [] ∧
      ∀ r ∈ roadsTwiceAwaited.state.runs,
        Confined roadsTwiceAwaited.memory roadsTwiceAwaited.state.taken r) ∧
      ∃ moves r s', OneCycle Import.viewImporter 1 (fun _ => .ok 0) roadsTwiceAwaited moves r s' ∧
        handed moves = ["roads"] ∧ r = .ok 1 := by
  have hnamed : Named roadsTwiceAwaited.memory := queuedRoads_named.replace _
  have hrunning : ∀ r ∈ roadsTwiceAwaited.state.runs,
      Confined roadsTwiceAwaited.memory roadsTwiceAwaited.state.taken r := List.forall_mem_nil _
  obtain ⟨queued, waiting, hqueued, hwaiting, ⟨moves, r, s', hcycle⟩, hall⟩ :=
    cycle_dispatches Import.viewImporter 1 (fun _ => .ok 0) hnamed rfl hrunning
  have hdispatches := hall moves r s' hcycle
  rw [hqueued.unique (lined_lined hnamed .queued), hwaiting.unique (lined_lined hnamed .waiting),
    ← candidates_eq] at hdispatches
  refine ⟨⟨hnamed, rfl, hrunning⟩, moves, r, s', hcycle, ?_, ?_⟩
  · rw [hdispatches.handed]
    decide +kernel
  · rw [hdispatches.result]
    exact congrArg Except.ok (by decide +kernel)

end BulkImport.Scheduler
